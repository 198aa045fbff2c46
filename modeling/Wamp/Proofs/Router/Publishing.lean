import Mathlib.Logic.ExistsUnique
import Wamp.Proofs.Broker.Followers
import Wamp.Proofs.Resolution
import Wamp.Proofs.Router.Run

/-!
# Whom a publication reaches

A router that is used by its sessions delivers every publication as the relation between sessions
and topics has it, which is read off the answers of the run alone.  The topic that is preferred
among those that cover the published one decides who gets the event.
-/

namespace Wamp

open SubscriberChange

/-! ## Resolution by the followers -/

namespace Broker

variable {broker : Broker} {changes : List SubscriberChange}

/-- The topics in the directory are those that are followed, with their policies. -/
theorem Tracks.liveName_eq (htracks : broker.Tracks changes) (hcatalogued : broker.Catalogued) :
    Uri.Directory.LiveName broker.named broker.isLive = PolicyOf changes := by
  funext topic policy
  apply propext
  rw [htracks.policy_iff]
  constructor
  · rintro ⟨id, hname, -⟩
    exact ⟨id, hname⟩
  · rintro ⟨id, hname⟩
    exact ⟨id, hname, hcatalogued.isLive hname⟩

theorem Tracks.existsUnique_policy (htracks : broker.Tracks changes)
    (hcatalogued : broker.Catalogued) {topic : String} (hfollowed : Followed changes topic) :
    ∃! policy, PolicyOf changes topic policy := by
  obtain ⟨id, policy, hname⟩ := (htracks.followed_iff hcatalogued topic).mp hfollowed
  refine ⟨policy, (htracks.policy_iff topic policy).mpr ⟨id, hname⟩, ?_⟩
  intro other hother
  obtain ⟨same, hsame⟩ := (htracks.policy_iff topic other).mp hother
  obtain rfl := hcatalogued.lists.unique hname hsame
  rw [hname, Option.some.injEq, Prod.mk.injEq] at hsame
  exact hsame.2.symm

theorem Tracks.not_covers (htracks : broker.Tracks changes) (hcatalogued : broker.Catalogued)
    {uri : String} (hnone : broker.resolve? uri = none) {topic : String} {policy : MatchPolicy}
    (hpolicy : PolicyOf changes topic policy) : ¬ Uri.Covers topic policy uri := by
  obtain ⟨id, hname⟩ := (htracks.policy_iff topic policy).mp hpolicy
  obtain ⟨found, hfound, hpair⟩ := Option.map_eq_some_iff.mp hname
  obtain ⟨rfl, rfl⟩ := Prod.mk.inj hpair
  exact (hcatalogued.resolve?_eq_none_iff uri).mp hnone id found hfound

theorem Tracks.prefers (htracks : broker.Tracks changes) (hcatalogued : broker.Catalogued)
    {uri : String} {policy : MatchPolicy} {subscription : Subscription}
    (hsome : broker.resolve? uri = some (policy, subscription)) :
    Uri.Prefers (PolicyOf changes) uri subscription.topic policy ∧
      ∀ session id, Follows changes session subscription.topic id ↔
        session ∈ subscription.subscribers ∧ id = subscription.id := by
  unfold resolve? at hsome
  split at hsome
  next => contradiction
  next entry hentry =>
    obtain ⟨stored, hname, -, hprefers⟩ := hcatalogued.lists.prefers_of_resolve?_eq_some hentry
    obtain ⟨found, hfound, hpair⟩ := Option.map_eq_some_iff.mp hsome
    obtain ⟨rfl, rfl⟩ := Prod.mk.inj hpair
    have hself := named_eq_some hfound
    rw [hself, Option.some.injEq, Prod.mk.injEq] at hname
    rw [htracks.liveName_eq hcatalogued, ← hname.1] at hprefers
    refine ⟨hprefers, ?_⟩
    intro session id
    rw [htracks.follows_iff, hcatalogued.id_eq _ _ hfound]
    constructor
    · rintro ⟨⟨other, hother, hmem⟩, policy, hsame⟩
      obtain rfl := hcatalogued.lists.unique hsame hself
      rw [hfound, Option.some.injEq] at hother
      rw [hother]
      exact ⟨hmem, rfl⟩
    · rintro ⟨hmem, rfl⟩
      exact ⟨⟨found, hfound, hmem⟩, found.policy, hself⟩

end Broker

/-! ## The changes of a run -/

namespace Router

/-- What an operation of a router and its answer change about who follows what. -/
def change? (occurrence : Occurrence Operation RouterError (List Routed)) :
    Option SubscriberChange :=
  match occurrence.operation, occurrence.answer with
  | .receive _ session (.subscribe request), .ok [{ message := .subscribed reply, .. }] =>
    some (.joined session request.topic (MatchPolicy.ofOptions request.options)
      reply.subscription)
  | .receive _ session (.unsubscribe request), .ok _ =>
    some (.left session request.subscription)
  | .detach session, .ok _ => some (.detached session)
  | _, _ => none

/-- The changes that a run of a new router makes to who follows what. -/
def changes (realm : String) (settings : Settings) (operations : List Operation) :
    List SubscriberChange :=
  (Run.history perform (ofSettings realm settings) operations).filterMap change?

variable {router : Router} {trail : List SubscriberChange}

theorem change?_of_error (operation : Operation) (error : RouterError) :
    change? { operation, answer := .error error } = none := by
  unfold change?
  split <;> simp_all

theorem answer_receive_subscribe (router : Router) (ambient : Ambient) (session : Id)
    (request : Subscribe) :
    (router.receive ambient session (.subscribe request)).answer =
      ((router.broker.subscribe session request).answer.mapError .broker).map
        fun routed => [routed] := rfl

theorem answer_receive_unsubscribe (router : Router) (ambient : Ambient) (session : Id)
    (request : Unsubscribe) :
    (router.receive ambient session (.unsubscribe request)).answer =
      ((router.broker.unsubscribe session request).answer.mapError .broker).map
        fun routed => [routed] := rfl

section Granted

variable (htogether : router.Together) (htables : router.broker.Tables)
  (hroom : router.broker.ids.last.toNat < maxId.toNat) (htracks : router.broker.Tracks trail)

include htogether htables htracks

theorem tracks_attach {session : Session} {routed : List Routed}
    (hanswer : (router.perform (.attach session)).answer = .ok routed) :
    (router.perform (.attach session)).state.broker.Tables ∧
      (router.perform (.attach session)).state.broker.Tracks trail := by
  rcases htogether.attach session with ⟨error, hrefused, -⟩ | ⟨-, hbroker, -⟩
  · simp [perform, hrefused, Except.map] at hanswer
  · have hstate : (router.perform (.attach session)).state.broker =
        (router.broker.addSession session).state := hbroker
    have hsame : (router.broker.addSession session).state.subscriptions =
        router.broker.subscriptions := by
      unfold Broker.addSession
      split <;> rfl
    rw [hstate]
    exact ⟨htables.addSession session, htracks.congr hsame⟩

theorem tracks_detach {session : Id} {routed : List Routed}
    (hanswer : (router.perform (.detach session)).answer = .ok routed) :
    (router.perform (.detach session)).state.broker.Tables ∧
      (router.perform (.detach session)).state.broker.Tracks (trail ++ [.detached session]) := by
  rcases htogether.detach session with ⟨error, hrefused, -⟩ | ⟨hattached, -, hbroker, -⟩
  · simp [perform, hrefused, Except.map] at hanswer
  · have hstate : (router.perform (.detach session)).state.broker =
        (router.broker.removeSession session).state := hbroker
    rw [hstate]
    exact ⟨htables.removeSession session, htracks.removeSession htables hattached⟩

omit htogether

include hroom in
theorem tracks_subscribe {ambient : Ambient} {session : Id} {request : Subscribe}
    {routed : List Routed}
    (hanswer : (router.receive ambient session (.subscribe request)).answer = .ok routed) :
    ∃ id,
      routed = [{
        recipient := session
        message := .subscribed { request := request.request, subscription := id } }] ∧
      (router.receive ambient session (.subscribe request)).state.broker.Tables ∧
      (router.receive ambient session (.subscribe request)).state.broker.Tracks
        (trail ++
          [.joined session request.topic (MatchPolicy.ofOptions request.options) id]) := by
  rw [answer_receive_subscribe] at hanswer
  have hattached : router.broker.isAttached session = true := by
    by_contra hstranger
    simp [Broker.subscribe, hstranger, Except.map] at hanswer
  obtain ⟨id, hgranted, hafter⟩ := htracks.subscribe htables hroom hattached request
  rw [hgranted, mapError_ok, Except.map, Except.ok.injEq] at hanswer
  rw [broker_receive]
  exact ⟨id, hanswer.symm, htables.subscribe hroom session request, hafter⟩

theorem tracks_unsubscribe {ambient : Ambient} {session : Id} {request : Unsubscribe}
    {routed : List Routed}
    (hanswer : (router.receive ambient session (.unsubscribe request)).answer = .ok routed) :
    (router.receive ambient session (.unsubscribe request)).state.broker.Tables ∧
      (router.receive ambient session (.unsubscribe request)).state.broker.Tracks
        (trail ++ [.left session request.subscription]) := by
  rw [answer_receive_unsubscribe] at hanswer
  rw [broker_receive]
  cases hgranted : (router.broker.unsubscribe session request).answer with
  | error error => simp [hgranted, Except.map] at hanswer
  | ok reply =>
      exact ⟨htables.unsubscribe session request, htracks.unsubscribe htables hgranted⟩

end Granted

/-- The broker's tables follow every operation of the router. -/
theorem tracks_perform (htogether : router.Together) (htables : router.broker.Tables)
    (hroom : router.broker.ids.last.toNat < maxId.toNat) (htracks : router.broker.Tracks trail)
    (operation : Operation) :
    (router.perform operation).state.broker.Tables ∧
      (router.perform operation).state.broker.Tracks
        (trail ++
          (change? { operation, answer := (router.perform operation).answer }).toList) := by
  cases hanswer : (router.perform operation).answer with
  | error error =>
      rw [htogether.perform_of_error hanswer, change?_of_error]
      exact ⟨htables, by simpa using htracks⟩
  | ok routed =>
      cases operation with
      | attach session => simpa [change?] using tracks_attach htogether htables htracks hanswer
      | detach session => exact tracks_detach htogether htables htracks hanswer
      | receive ambient session message =>
          have hbroker := router.broker_receive ambient session message
          cases message with
          | subscribe request =>
              obtain ⟨id, rfl, hafter⟩ := tracks_subscribe htables hroom htracks hanswer
              exact hafter
          | unsubscribe request => exact tracks_unsubscribe htables htracks hanswer
          | _ =>
              simp only [perform]
              rw [hbroker]
              exact ⟨htables, by simpa [change?] using htracks⟩

theorem tables_ofSettings (realm : String) (settings : Settings) :
    (ofSettings realm settings).broker.Tables :=
  { Broker.tables_empty with }

theorem changes_concat (realm : String) (settings : Settings) (operations : List Operation)
    (operation : Operation) :
    changes realm settings (operations ++ [operation]) =
      changes realm settings operations ++
        (change? {
          operation
          answer := ((Run.final perform (ofSettings realm settings) operations).perform
            operation).answer }).toList := by
  unfold changes
  rw [Run.history_concat, List.filterMap_append, List.filterMap_cons, List.filterMap_nil]
  split
  next hnone => rw [hnone, Option.toList_none]
  next change hsome => rw [hsome, Option.toList_some]

theorem tracks_final (realm : String) (settings : Settings) (operations : List Operation)
    (hdrawn : (drawnIds realm settings operations).length < maxId.toNat) :
    (Run.final perform (ofSettings realm settings) operations).broker.Tables ∧
      (Run.final perform (ofSettings realm settings) operations).broker.Tracks
        (changes realm settings operations) := by
  -- From the end of the run, where its last change stands.
  induction operations using List.reverseRecOn with
  | nil => exact ⟨tables_ofSettings realm settings, Broker.tracks_empty.congr rfl⟩
  | append_singleton operations operation ih =>
      have hstart : 0 + (drawnIds realm settings (operations ++ [operation])).length <
          maxId.toNat := by omega
      have hroom := Run.room_append countsUp (ofSettings realm settings) operations [operation]
        hstart
      have hle := Run.length_drawn_le perform (fun router => router.broker.ids)
        (ofSettings realm settings) operations [operation]
      obtain ⟨htables, htracks⟩ := ih (Nat.lt_of_le_of_lt hle hdrawn)
      rw [Run.final_concat, changes_concat]
      exact tracks_perform (together_final realm settings operations) htables
        (Nat.lt_of_le_of_lt (Nat.le_add_right _ _) hroom) htracks operation

/-! ## Publications -/

/-- The confirmation of a publication, if the publisher asks for one. -/
def confirmation (publisher : Id) (request : Publish) (publication : Id) : List Routed :=
  if request.options.flag "acknowledge" then
    [{ recipient := publisher, message := .published { request := request.request, publication } }]
  else
    []

/-- Each follower of a topic is named once among the recipients of an event, which stand in
ascending order, and the event bears the identifier that they were told for the topic. -/
structure Reaches (trail : List SubscriberChange) (topic : String) (event : Event)
    (recipients : List Id) : Prop where
  ascending : recipients.Pairwise (· < ·)
  mem_iff : ∀ session, session ∈ recipients ↔ ∃ id, Follows trail session topic id
  told : ∀ session id, Follows trail session topic id → id = event.subscription

theorem answer_receive_publish (router : Router) (ambient : Ambient) (session : Id)
    (request : Publish) :
    (router.receive ambient session (.publish request)).answer =
      ((router.broker.publish ambient session request).answer.mapError .broker).map
        Publication.outbound := rfl

theorem receive_publish_of_unresolved {publisher : Id}
    (hattached : router.broker.isAttached publisher = true) {request : Publish}
    (hnone : router.broker.resolve? request.topic = none) (ambient : Ambient) :
    (router.receive ambient publisher (.publish request)).answer =
      .ok (confirmation publisher request ambient.drawnId) := by
  obtain ⟨found, hfound⟩ := Table.mem_iff_exists.mp hattached
  rw [answer_receive_publish]
  simp only [Broker.publish, hfound, hnone, Outcome.answer_granted, mapError_ok, Except.map,
    Publication.outbound, confirmation, List.nil_append]
  split <;> rfl

theorem receive_publish_of_resolved {publisher : Id}
    (hattached : router.broker.isAttached publisher = true) {request : Publish}
    {policy : MatchPolicy} {subscription : Subscription}
    (hsome : router.broker.resolve? request.topic = some (policy, subscription))
    (ambient : Ambient) :
    ∃ event : Event, event.toArguments = request.toArguments ∧
      event.subscription = subscription.id ∧ event.publication = ambient.drawnId ∧
      (router.receive ambient publisher (.publish request)).answer =
        .ok (subscription.subscribers.toList.map
            (fun recipient => { recipient, message := .event event }) ++
          confirmation publisher request ambient.drawnId) := by
  obtain ⟨found, hfound⟩ := Table.mem_iff_exists.mp hattached
  refine ⟨{
    request.toArguments with
    subscription := subscription.id
    publication := ambient.drawnId
    details := router.broker.eventDetails found policy request.topic }, rfl, rfl, rfl, ?_⟩
  rw [answer_receive_publish]
  simp only [Broker.publish, hfound, hsome, Outcome.answer_granted, mapError_ok, Except.map,
    Publication.outbound, confirmation]
  split <;> rfl

theorem reaches_subscribers {subscription : Subscription}
    (hfollows : ∀ session id, Follows trail session subscription.topic id ↔
      session ∈ subscription.subscribers ∧ id = subscription.id)
    {event : Event} (hevent : event.subscription = subscription.id) :
    Reaches trail subscription.topic event subscription.subscribers.toList where
  ascending :=
    Std.ExtTreeSet.ordered_toList.imp fun hlt => Nat.compare_eq_lt.mp hlt
  mem_iff session := by
    rw [Std.ExtTreeSet.mem_toList]
    simp only [hfollows, exists_and_left, exists_eq, and_true]
  told session id hfollowed := by
    rw [hevent]
    exact ((hfollows session id).mp hfollowed).2

/-- A publication is delivered as the relation between sessions and topics has it that the answers
of the run establish.  If no followed topic covers the published one, nobody gets an event.
Otherwise all followers of the preferred topic get the same event through the subscription that the
published topic is resolved to.  If the publisher asked for a confirmation, it comes last. -/
theorem publications_of_run (realm : String) (settings : Settings) (operations : List Operation)
    (hdrawn : (drawnIds realm settings operations).length < maxId.toNat) (ambient : Ambient)
    (publisher : Id) (request : Publish)
    (hattached : (Run.final perform (ofSettings realm settings) operations).broker.isAttached
      publisher = true) :
    let router := Run.final perform (ofSettings realm settings) operations
    let trail := changes realm settings operations
    let answer := (router.receive ambient publisher (.publish request)).answer
    let confirmed := confirmation publisher request ambient.drawnId
    (∀ topic, Followed trail topic ↔ ∃! policy, PolicyOf trail topic policy) ∧
    ((∀ topic policy, PolicyOf trail topic policy → ¬ Uri.Covers topic policy request.topic) →
      router.broker.resolve? request.topic = none ∧ answer = .ok confirmed) ∧
    ((∃ topic policy, PolicyOf trail topic policy ∧ Uri.Covers topic policy request.topic) →
      ∃ policy subscription, ∃ event : Event,
        Uri.Prefers (PolicyOf trail) request.topic subscription.topic policy ∧
        router.broker.resolve? request.topic = some (policy, subscription) ∧
        Reaches trail subscription.topic event subscription.subscribers.toList ∧
        event.toArguments = request.toArguments ∧ event.publication = ambient.drawnId ∧
        answer = .ok (subscription.subscribers.toList.map
          (fun recipient => { recipient, message := .event event }) ++ confirmed)) := by
  intro router trail answer confirmed
  obtain ⟨htables, htracks⟩ := tracks_final realm settings operations hdrawn
  refine ⟨?_, ?_, ?_⟩
  · intro topic
    constructor
    · exact htracks.existsUnique_policy htables.toCatalogued
    · rintro ⟨policy, hpolicy, -⟩
      exact hpolicy.followed
  · intro huncovered
    have hunresolved : router.broker.resolve? request.topic = none := by
      cases hresolved : router.broker.resolve? request.topic with
      | none => rfl
      | some found =>
          obtain ⟨hprefers, -⟩ := htracks.prefers htables.toCatalogued hresolved
          exact absurd hprefers.covers (huncovered _ _ hprefers.listed)
    exact ⟨hunresolved, receive_publish_of_unresolved hattached hunresolved ambient⟩
  · rintro ⟨topic, policy, hpolicy, hcovers⟩
    cases hresolved : router.broker.resolve? request.topic with
    | none => exact absurd hcovers (htracks.not_covers htables.toCatalogued hresolved hpolicy)
    | some found =>
        obtain ⟨hprefers, hfollows⟩ := htracks.prefers htables.toCatalogued hresolved
        obtain ⟨event, harguments, hevent, hpublication, hanswer⟩ :=
          receive_publish_of_resolved hattached hresolved ambient
        exact ⟨found.1, found.2, event, hprefers, rfl, reaches_subscribers hfollows hevent,
          harguments, hpublication, hanswer⟩

/-- Session 2 gives a topic back and follows a prefix of it instead, as session 1 does already. -/
def movedFollower : List Operation :=
  let member (id : Id) : Session :=
    { id, realm := "realm1", authid := "", authrole := "", staticSerializer := false }
  let ambient : Ambient := { drawnId := 7, drawnIndex := 0, now := "" }
  let leading : Dict := (∅ : Dict).insert "match" (.text "prefix")
  [.attach (member 1), .attach (member 2), .attach (member 3),
    .receive ambient 1 (.subscribe { request := 1, options := leading, topic := "com." }),
    .receive ambient 2 (.subscribe { request := 1, options := ∅, topic := "com.news" }),
    .receive ambient 2 (.unsubscribe { request := 2, subscription := 2 }),
    .receive ambient 2 (.subscribe { request := 3, options := ∅, topic := "com." })]

theorem publications_movedFollower :
    let ambient : Ambient := { drawnId := 7, drawnIndex := 0, now := "" }
    let request : Publish :=
      { request := 9
        options := (∅ : Dict).insert "acknowledge" (.boolean true)
        topic := "com.news" }
    let router := Run.final perform (ofSettings "realm1" {}) movedFollower
    (drawnIds "realm1" {} movedFollower).length < maxId.toNat ∧
      router.broker.isAttached 3 = true ∧
      ∃ event : Event, event.subscription = 1 ∧ event.publication = 7 ∧
        (router.receive ambient 3 (.publish request)).answer = .ok [
          { recipient := 1, message := .event event },
          { recipient := 2, message := .event event },
          { recipient := 3, message := .published { request := 9, publication := 7 } }] := by
  intro ambient request router
  have hdrawn : (drawnIds "realm1" {} movedFollower).length < maxId.toNat := by decide +kernel
  have hattached : router.broker.isAttached 3 = true := by decide +kernel
  have htrail : changes "realm1" {} movedFollower = [
      .joined 1 "com." .leading 1, .joined 2 "com.news" .exact 2, .left 2 2,
      .joined 2 "com." .exact 1] := by decide +kernel
  have hmatched : (router.broker.resolve? "com.news").map
      (fun found => (found.2.topic, found.2.subscribers.toList)) = some ("com.", [1, 2]) := by
    decide +kernel
  have hpolicy : PolicyOf (changes "realm1" {} movedFollower) "com." .leading := by
    rw [htrail]
    exact policyOf_of_stays (not_followed_nil "com.") (by decide) (by decide)
  have hfollows : Follows (changes "realm1" {} movedFollower) 1 "com." 1 := by
    rw [htrail]
    exact ⟨[], .leading, _, rfl, by decide, by decide⟩
  obtain ⟨-, -, hcovered⟩ :=
    publications_of_run "realm1" {} movedFollower hdrawn ambient 3 request hattached
  obtain ⟨policy, subscription, event, -, hresolved, hreaches, -, hpublication, hanswer⟩ :=
    hcovered ⟨"com.", .leading, hpolicy, by decide +kernel⟩
  rw [hresolved, Option.map_some, Option.some.injEq, Prod.mk.injEq] at hmatched
  rw [hmatched.1] at hreaches
  rw [hmatched.2] at hanswer
  exact ⟨hdrawn, hattached, event, (hreaches.told 1 1 hfollows).symm, hpublication, hanswer⟩

end Router

end Wamp
