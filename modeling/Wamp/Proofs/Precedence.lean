import Wamp.Proofs.Broker.Tables
import Wamp.Proofs.Dealer.Registrations
import Wamp.Proofs.Dealer.Routes
import Wamp.Proofs.FlatTable

/-!
# The order of resolution

An exact entry comes first, then the longest prefix, and a pattern is the last resort.  The order
is kept but for one case: a pattern that is spelt like the incoming URI is found before any prefix
is looked for.  This is shown of directories, and then of the publications and the calls that are
resolved by one.
-/

namespace Wamp

namespace Uri

variable {α : Type} {lookup : String → Option (Entry α)} {live : α → Bool} {uri : String}
  {resolved : Option (Entry α)}

/-- An exact entry is preferred to every prefix, the longest prefix to the shorter ones, and any
prefix to every pattern. -/
structure InOrder (lookup : String → Option (Entry α)) (live : α → Bool) (uri : String)
    (resolved : Option (Entry α)) : Prop where
  exact : ∀ value, lookup uri = some { policy := .exact, value } → live value = true →
    resolved = some { policy := .exact, value }
  leading : ¬ Listed lookup live uri .exact →
    (∃ stored, Listed lookup live stored .leading ∧ stored.toList <+: uri.toList) →
    ∃ longest value, lookup longest = some { policy := .leading, value } ∧ live value = true ∧
      longest.toList <+: uri.toList ∧
      (∀ stored, Listed lookup live stored .leading → stored.toList <+: uri.toList →
        stored.toList <+: longest.toList) ∧
      resolved = some { policy := .leading, value }
  wildcard : ∀ value, resolved = some { policy := .wildcard, value } →
    ¬ Listed lookup live uri .exact ∧
      ∀ stored, Listed lookup live stored .leading → ¬ stored.toList <+: uri.toList

/-- A live pattern is spelt like the URI, and a live prefix begins it. -/
def Overtaken (lookup : String → Option (Entry α)) (live : α → Bool) (uri : String) : Prop :=
  Listed lookup live uri .wildcard ∧
    ∃ stored, Listed lookup live stored .leading ∧ stored.toList <+: uri.toList

namespace Resolves

/-- What is listed under the URI itself decides the policy of the result. -/
theorem of_listed (hresolves : Resolves lookup live uri resolved) {policy : MatchPolicy}
    (hlisted : Listed lookup live uri policy) :
    ∃ value, lookup uri = some { policy, value } ∧ live value = true ∧
      resolved = some { policy, value } := by
  obtain ⟨value, hentry, hlive⟩ := hlisted
  exact ⟨value, hentry, hlive, hresolves.itself _ hentry hlive⟩

theorem inOrder (hresolves : Resolves lookup live uri resolved)
    (hother : ¬ Overtaken lookup live uri) : InOrder lookup live uri resolved where
  exact value := hresolves.itself _
  leading := by
    rintro hexact ⟨stored, hlisted, hprefix⟩
    by_cases hitself : Listed lookup live uri .leading
    · obtain ⟨value, hentry, hlive, hresolved⟩ := hresolves.of_listed hitself
      exact ⟨uri, value, hentry, hlive, List.prefix_rfl, fun _ _ => id, hresolved⟩
    · apply hresolves.leading _ ⟨stored, hlisted, hprefix⟩
      intro policy hpolicy
      cases policy with
      | exact => exact hexact hpolicy
      | leading => exact hitself hpolicy
      | wildcard => exact hother ⟨hpolicy, stored, hlisted, hprefix⟩
  wildcard value hvalue := by
    have hpattern : ∀ policy, Listed lookup live uri policy → policy = .wildcard := by
      intro policy hpolicy
      obtain ⟨found, -, -, hfound⟩ := hresolves.of_listed hpolicy
      rw [hvalue, Option.some.injEq, Entry.mk.injEq] at hfound
      exact hfound.1.symm
    refine ⟨fun hexact => absurd (hpattern _ hexact) (by decide), ?_⟩
    intro stored hlisted hprefix
    by_cases hitself : Listed lookup live uri .wildcard
    · exact hother ⟨hitself, stored, hlisted, hprefix⟩
    · have hnone : ∀ policy, ¬ Listed lookup live uri policy := by
        intro policy hpolicy
        exact hitself (hpattern policy hpolicy ▸ hpolicy)
      obtain ⟨_, _, -, -, -, -, hleading⟩ :=
        hresolves.leading hnone ⟨stored, hlisted, hprefix⟩
      simp [hvalue] at hleading

theorem inOrder_iff (hresolves : Resolves lookup live uri resolved) :
    InOrder lookup live uri resolved ↔ ¬ Overtaken lookup live uri := by
  refine ⟨?_, hresolves.inOrder⟩
  rintro horder ⟨hitself, stored, hlisted, hprefix⟩
  obtain ⟨value, -, -, hresolved⟩ := hresolves.of_listed hitself
  exact (horder.wildcard value hresolved).2 stored hlisted hprefix

end Resolves

/-- What is live under the URI itself is found first, and but for that the order is kept. -/
structure Directory.Precedence (directory : Directory α) (live : α → Bool) (uri : String) :
    Prop where
  itself : ∀ entry, directory.get? uri = some entry → live entry.value = true →
    directory.resolve? uri live = some entry
  inOrder_iff : InOrder directory.get? live uri (directory.resolve? uri live) ↔
    ¬ Overtaken directory.get? live uri

theorem Directory.InStep.precedence {directory : Directory α} (hstep : directory.InStep)
    (live : α → Bool) (uri : String) : directory.Precedence live uri where
  itself := (hstep.resolves live uri).itself
  inOrder_iff := (hstep.resolves live uri).inOrder_iff

namespace Directory.Precedence

variable {directory : Directory α} {live : α → Bool} {uri : String}

theorem inOrder (hprecedence : directory.Precedence live uri)
    (hnone : directory.get? uri = none) :
    InOrder directory.get? live uri (directory.resolve? uri live) := by
  rw [hprecedence.inOrder_iff]
  rintro ⟨⟨value, hentry, -⟩, -⟩
  rw [hnone] at hentry
  contradiction

theorem not_inOrder (hprecedence : directory.Precedence live uri) {pattern leading : α}
    {stored : String}
    (hpattern : directory.get? uri = some { policy := .wildcard, value := pattern })
    (hleading : directory.get? stored = some { policy := .leading, value := leading })
    (hlive : live pattern = true ∧ live leading = true) (hbegins : stored.toList <+: uri.toList) :
    ¬ InOrder directory.get? live uri (directory.resolve? uri live) := by
  rw [hprecedence.inOrder_iff, not_not]
  exact ⟨⟨pattern, hpattern, hlive.1⟩, stored, ⟨leading, hleading, hlive.2⟩, hbegins⟩

end Directory.Precedence

end Uri

/-! ## Publications -/

namespace Broker

/-- A publication goes to the subscribers of what its topic is resolved to. -/
def GoesBy (broker : Broker) (resolved : Option (Uri.Entry Id)) (publication : Publication) :
    Prop :=
  match resolved with
  | none => publication.event = none ∧ publication.recipients = []
  | some entry =>
    ∃ found event, broker.subscriptions[entry.value]? = some found ∧
      publication.event = some event ∧ event.subscription = found.id ∧
      publication.recipients = found.subscribers.toList

theorem GoesBy.recipients {broker : Broker} {resolved : Option (Uri.Entry Id)}
    {entry : Uri.Entry Id} {publication : Publication}
    (hgoes : broker.GoesBy resolved publication) (hresolved : resolved = some entry) :
    (broker.subscriptions[entry.value]?).map (fun found => found.subscribers.toList) =
      some publication.recipients := by
  subst hresolved
  obtain ⟨found, event, hfound, -, -, hrecipients⟩ := hgoes
  rw [hfound, hrecipients]
  rfl

theorem publish_goesBy {broker : Broker} (hstep : broker.directory.InStep) {session : Id}
    (hattached : broker.isAttached session = true) (ambient : Ambient) (request : Publish) :
    ∃ publication, (broker.publish ambient session request).answer = .ok publication ∧
      broker.GoesBy (broker.directory.resolve? request.topic broker.isLive) publication := by
  obtain ⟨publisher, hpublisher⟩ := Table.mem_iff_exists.mp hattached
  unfold publish
  rw [hpublisher]
  simp only [resolve?]
  cases hresolved : broker.directory.resolve? request.topic broker.isLive with
  | none => exact ⟨_, rfl, rfl, rfl⟩
  | some entry =>
      obtain ⟨-, -, hlive, -⟩ := hstep.prefers_of_resolve?_eq_some hresolved
      obtain ⟨found, hfound, -⟩ := (Option.any_eq_true _ _).mp hlive
      simp only [hfound, Option.map_some]
      exact ⟨_, rfl, found, _, hfound, rfl, rfl, rfl⟩

end Broker

/-! ## Calls -/

namespace Dealer

/-- A call goes to a callee of what its procedure is resolved to. -/
def GoesBy (dealer : Dealer) (resolved : Option (Uri.Entry Id)) (session : Id) (request : Call)
    (routed : Routed) : Prop :=
  match resolved with
  | none => routed = failure session .call request.request ErrorUri.noSuchProcedure
  | some entry =>
    ∃ found body, dealer.registrations[entry.value]? = some found ∧
      routed.recipient ∈ found.callees ∧ routed.message = .invocation body ∧
      body.registration = entry.value

theorem GoesBy.recipient_mem {dealer : Dealer} {resolved : Option (Uri.Entry Id)}
    {entry : Uri.Entry Id} {session : Id} {request : Call} {routed : Routed}
    (hgoes : dealer.GoesBy resolved session request routed) (hresolved : resolved = some entry)
    {callees : List Id}
    (hcallees : (dealer.registrations[entry.value]?).map (fun found => found.callees) =
      some callees) : routed.recipient ∈ callees := by
  subst hresolved
  obtain ⟨found, body, hfound, hmem, -, -⟩ := hgoes
  rw [hfound] at hcallees
  exact Option.some.inj hcallees ▸ hmem

theorem Tables.call_goesBy {dealer : Dealer} (htables : dealer.Tables) {session : Id}
    (hattached : dealer.isAttached session = true) {request : Call}
    (hclosed : dealer.openInvocation? (callKey session request) = none) (ambient : Ambient) :
    ∃ routed, (dealer.receive ambient session (.call request)).answer = .ok [routed] ∧
      dealer.GoesBy (dealer.directory.resolve? request.procedure dealer.isLive) session request
        routed := by
  obtain ⟨caller, hcaller⟩ := isAttached_iff.mp hattached
  unfold callKey at hclosed
  simp only [receive, call, hcaller, hclosed, callFresh]
  cases hresolved : dealer.directory.resolve? request.procedure dealer.isLive with
  | none => exact ⟨_, rfl, rfl⟩
  | some entry =>
      obtain ⟨-, -, hlive, -⟩ := htables.lists.prefers_of_resolve?_eq_some hresolved
      obtain ⟨found, hfound, -⟩ := (Option.any_eq_true _ _).mp hlive
      obtain ⟨position, callee, hpick, hposition⟩ :=
        (htables.wellFormed _ _ hfound).exists_pick? ambient.drawnIndex
      have hmem := List.mem_of_getElem? hposition
      have hserved := htables.attached_of_servedBy ⟨found, hfound, hmem⟩
      obtain ⟨details, hdetails⟩ := isAttached_iff.mp hserved
      let route : Route :=
        { callee, registration := entry.value, policy := entry.policy }
      have hchosen : (dealer.committed entry.value found position).sessions[route.callee]? =
          some details := hdetails
      have hdispatched := dispatch_of_attached hchosen session caller request
      simp only [hfound, hpick, hposition, if_pos hserved]
      change ∃ routed, ((dealer.committed entry.value found position).dispatch session caller
        route request).answer = .ok [routed] ∧ _
      rw [hdispatched]
      exact ⟨_, rfl, found, _, hfound, hmem, rfl, rfl⟩

end Dealer

/-! ## The order of a run -/

/-- Publications and calls are resolved by a directory, and a directory that was built by
insertions and removals finds what is live under the incoming URI itself before it looks further.
So an exact entry always comes first, and the order fails exactly for a URI that a live prefix
begins and that is itself the spelling of a live pattern. -/
theorem precedence_of_run (uri : String) :
    (∀ (α : Type) (changes : List (Uri.Change α)) (live : α → Bool),
      (Uri.Directory.built changes).Precedence live uri) ∧
    (∀ (operations : List Broker.Operation) (ambient : Ambient) (session : Id)
        (request : Publish),
      let broker := Run.final Broker.perform {} operations
      broker.isAttached session = true → request.topic = uri →
      broker.directory.Precedence broker.isLive uri ∧
        ∃ publication, (broker.publish ambient session request).answer = .ok publication ∧
          broker.GoesBy (broker.directory.resolve? uri broker.isLive) publication) ∧
    ∀ (operations : List Dealer.Operation) (ambient : Ambient) (session : Id) (request : Call),
      let dealer := Run.final Dealer.perform {} operations
      dealer.isAttached session = true → request.procedure = uri →
      dealer.openInvocation? (Dealer.callKey session request) = none →
      dealer.directory.Precedence dealer.isLive uri ∧
        ∃ routed, (dealer.receive ambient session (.call request)).answer = .ok [routed] ∧
          dealer.GoesBy (dealer.directory.resolve? uri dealer.isLive) session request routed := by
  refine ⟨?_, ?_, ?_⟩
  · intro α changes live
    exact (Uri.Directory.inStep_built changes).precedence live uri
  · rintro operations ambient session request broker hattached rfl
    have hstep : broker.directory.InStep := (Broker.canonical_final operations).toInStep
    exact ⟨hstep.precedence _ _, Broker.publish_goesBy hstep hattached ambient request⟩
  · rintro operations ambient session request dealer hattached rfl hclosed
    have htables : dealer.Tables := Dealer.tables_final operations
    exact ⟨htables.lists.inStep.precedence _ _, htables.call_goesBy hattached hclosed ambient⟩

section LikeNames

/-- One session takes a prefix, and another the pattern that it begins. -/
def likeParties : List Session :=
  [1, 2].map fun id =>
    { id, realm := "realm1", authid := "", authrole := "", staticSerializer := false }

def drawing (drawnId : Id) : Ambient where
  drawnId := drawnId
  drawnIndex := 0
  now := ""

def matching (policy : String) : Dict :=
  (∅ : Dict).insert "match" (.text policy)

def likeTopics : List Broker.Operation :=
  likeParties.map .attach ++
    [.receive 1 (.subscribe { request := 1, options := matching "prefix", topic := "a." }),
      .receive 2 (.subscribe { request := 1, options := matching "wildcard", topic := "a.*" })]

def likeProcedures : List Dealer.Operation :=
  likeParties.map .attach ++
    [.receive (drawing 7) 1
        (.register { request := 1, options := matching "prefix", procedure := "a." }),
      .receive (drawing 8) 2
        (.register { request := 1, options := matching "wildcard", procedure := "a.*" })]

def publishOf (topic : String) : Publish where
  request := 2
  options := ∅
  topic := topic

def callOf (procedure : String) : Call where
  request := 2
  options := ∅
  procedure := procedure

theorem precedence_likeNames :
    let broker := Run.final Broker.perform {} likeTopics
    let dealer := Run.final Dealer.perform {} likeProcedures
    (∃ publication, (broker.publish (drawing 9) 1 (publishOf "a.b")).answer = .ok publication ∧
      publication.recipients = [1] ∧
      Uri.InOrder broker.directory.get? broker.isLive "a.b"
        (broker.directory.resolve? "a.b" broker.isLive)) ∧
    (∃ publication, (broker.publish (drawing 9) 1 (publishOf "a.*")).answer = .ok publication ∧
      publication.recipients = [2] ∧
      ¬ Uri.InOrder broker.directory.get? broker.isLive "a.*"
        (broker.directory.resolve? "a.*" broker.isLive)) ∧
    (∃ routed, (dealer.receive (drawing 9) 1 (.call (callOf "a.b"))).answer = .ok [routed] ∧
      routed.recipient = 1 ∧
      Uri.InOrder dealer.directory.get? dealer.isLive "a.b"
        (dealer.directory.resolve? "a.b" dealer.isLive)) ∧
    ∃ routed, (dealer.receive (drawing 9) 1 (.call (callOf "a.*"))).answer = .ok [routed] ∧
      routed.recipient = 2 ∧
      ¬ Uri.InOrder dealer.directory.get? dealer.isLive "a.*"
        (dealer.directory.resolve? "a.*" dealer.isLive) := by
  intro broker dealer
  have hsubscribed : (broker.subscriptions[1]?).map (fun found => found.subscribers.toList) =
        some [1] ∧
      (broker.subscriptions[2]?).map (fun found => found.subscribers.toList) = some [2] := by
    decide +kernel
  have htopics : broker.directory.get? "a." = some { policy := .leading, value := 1 } ∧
      broker.directory.get? "a.*" = some { policy := .wildcard, value := 2 } ∧
      broker.directory.get? "a.b" = none ∧
      broker.directory.resolve? "a.b" broker.isLive = some { policy := .leading, value := 1 } ∧
      broker.directory.resolve? "a.*" broker.isLive =
        some { policy := .wildcard, value := 2 } := by
    decide +kernel
  have hserved : (dealer.registrations[7]?).map (fun found => found.callees) = some [1] ∧
      (dealer.registrations[8]?).map (fun found => found.callees) = some [2] := by
    decide +kernel
  have hprocedures : dealer.directory.get? "a." = some { policy := .leading, value := 7 } ∧
      dealer.directory.get? "a.*" = some { policy := .wildcard, value := 8 } ∧
      dealer.directory.get? "a.b" = none ∧
      dealer.directory.resolve? "a.b" dealer.isLive = some { policy := .leading, value := 7 } ∧
      dealer.directory.resolve? "a.*" dealer.isLive =
        some { policy := .wildcard, value := 8 } := by
    decide +kernel
  obtain ⟨-, hpublishes, hcalls⟩ := precedence_of_run "a.b"
  obtain ⟨-, hpublishesLike, hcallsLike⟩ := precedence_of_run "a.*"
  obtain ⟨hleading, hpattern, hnone, hbegun, hspelled⟩ := htopics
  obtain ⟨hpublished, sent, hsent, hgoes⟩ :=
    hpublishes likeTopics (drawing 9) 1 (publishOf "a.b") (by decide +kernel) rfl
  obtain ⟨hovertaken, stray, hstray, hstrays⟩ :=
    hpublishesLike likeTopics (drawing 9) 1 (publishOf "a.*") (by decide +kernel) rfl
  have hrecipients := (hgoes.recipients hbegun).symm.trans hsubscribed.1
  have hstrayed := (hstrays.recipients hspelled).symm.trans hsubscribed.2
  refine ⟨⟨sent, hsent, Option.some.inj hrecipients, hpublished.inOrder hnone⟩,
    ⟨stray, hstray, Option.some.inj hstrayed,
      hovertaken.not_inOrder hpattern hleading (by decide +kernel) (by decide)⟩, ?_⟩
  obtain ⟨hleading, hpattern, hnone, hbegun, hspelled⟩ := hprocedures
  obtain ⟨hcalled, sent, hsent, hgoes⟩ := hcalls likeProcedures (drawing 9) 1 (callOf "a.b")
    (by decide +kernel) rfl (by decide +kernel)
  obtain ⟨hovertaken, stray, hstray, hstrays⟩ := hcallsLike likeProcedures (drawing 9) 1
    (callOf "a.*") (by decide +kernel) rfl (by decide +kernel)
  have hcallee := List.mem_singleton.mp (hgoes.recipient_mem hbegun hserved.1)
  have hstrayed := List.mem_singleton.mp (hstrays.recipient_mem hspelled hserved.2)
  exact ⟨⟨sent, hsent, hcallee, hcalled.inOrder hnone⟩, stray, hstray, hstrayed,
    hovertaken.not_inOrder hpattern hleading (by decide +kernel) (by decide)⟩

/-- The prefix begins the URI, but the pattern is spelt like it. -/
theorem not_inOrder_spelledPattern :
    let directory : Uri.Directory Nat :=
      Uri.Directory.built [.put "a." .leading 1, .put "a.*" .wildcard 2]
    let resolved := directory.resolve? "a.*" fun _ => true
    resolved = some { policy := .wildcard, value := 2 } ∧
      ¬ Uri.InOrder directory.get? (fun _ => true) "a.*" resolved := by
  intro directory resolved
  have hentries : directory.get? "a." = some { policy := .leading, value := 1 } ∧
      resolved = some { policy := .wildcard, value := 2 } := by
    decide +kernel
  refine ⟨hentries.2, fun horder => ?_⟩
  exact (horder.wildcard 2 hentries.2).2 "a." ⟨1, hentries.1, rfl⟩ (by decide)

end LikeNames

end Wamp
