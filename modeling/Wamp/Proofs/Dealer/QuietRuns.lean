import Mathlib.Data.List.Induction
import Wamp.Proofs.Dealer.Replies

/-!
# Quiet runs

The promise that a caller gets one final reply for each of its calls can be broken in one way.  A
call that repeats the request of a call in flight and resolves to no procedure is answered with an
error at once, but the invocation in flight stays and is answered later.  A run is *quiet* if this
never happens.  In quiet runs the promise is kept and a client session that follows the traffic of
a caller accepts every reply, and quiet runs are the only ones of which this can be relied on,
whatever happens next.
-/

namespace Wamp.Dealer

/-- A call in flight is overlooked: its request is repeated with a procedure that resolves to
nothing, and the caller is told so. -/
def Overlooks (dealer : Dealer) (operation : Operation) (key : CallKey) : Prop :=
  operation.call? = some key ∧ key ∈ dealer.invocationOf ∧
    (dealer.perform operation).answer =
      .ok [failure key.caller .call key.request ErrorUri.noSuchProcedure]

/-- No call in flight is overlooked during the run. -/
def Quiet (operations : List Operation) : Prop :=
  Run.Throughout perform (fun dealer operation => ∀ key, ¬ dealer.Overlooks operation key) {}
    operations

/-- Whatever identifier the run draws is not in flight at that moment. -/
def DrawsFresh (operations : List Operation) : Prop :=
  Run.Throughout perform
    (fun dealer operation =>
      (dealer.perform operation).state.ids ≠ dealer.ids → dealer.HasFreshId) {} operations

theorem drawsFresh_of_length {operations : List Operation}
    (hdrawn : (drawnIds operations).length < maxId.toNat) : DrawsFresh operations := by
  rintro before operation after rfl -
  have hbefore : (drawnIds before).length ≤ (drawnIds (before ++ operation :: after)).length :=
    Run.length_drawn_le perform Dealer.ids {} before (operation :: after)
  have hlast := Run.last_final countsUp {} before (by
    simpa [drawnIds] using Nat.le_of_lt (Nat.lt_of_le_of_lt hbefore hdrawn))
  apply (inFlight_final before (Nat.lt_of_le_of_lt hbefore hdrawn)).2.hasFreshId
  rw [hlast]
  simpa [drawnIds] using Nat.lt_of_le_of_lt hbefore hdrawn

/-! ## A client session that follows the traffic of a session -/

def delivered (occurrence : Occurrence Operation DealerError (List Routed)) : List Routed :=
  match occurrence.answer with
  | .error _ => []
  | .ok routed => routed

/-- The caller is told that its call resolves to no procedure. -/
def resolvesToNone (occurrence : Occurrence Operation DealerError (List Routed)) : Bool :=
  (delivered occurrence).any fun routed =>
    match routed.message with
    | .error reply => reply.uri == ErrorUri.noSuchProcedure
    | _ => false

/-- A run in which every call finds a procedure is quiet. -/
theorem quiet_of_history {operations : List Operation}
    (hresolves : ∀ occurrence ∈ Run.history perform {} operations,
      resolvesToNone occurrence = false) : Quiet operations := by
  rintro before operation after rfl key ⟨-, -, hanswer⟩
  have hresolved := hresolves
    { operation, answer := (perform (Run.final perform {} before) operation).answer }
    (by rw [Run.history_append]; simp [Run.history])
  rw [hanswer] at hresolved
  simp [resolvesToNone, delivered, failure, ErrorReply.plain] at hresolved

/-- A session that attaches gets a new client session, which records what the session sends,
whether or not the dealer accepts it. -/
def recorded (session : Id) (client : Client)
    (occurrence : Occurrence Operation DealerError (List Routed)) : Client :=
  match occurrence.operation with
  | .attach details =>
    match occurrence.answer with
    | .ok _ => if details.id = session then {} else client
    | .error _ => client
  | .receive _ sender message => if sender = session then (client.send message).state else client
  | .detach _ | .disclose _ => client

/-- The client session of a session after a run in which every message was delivered at once,
and what it made of the messages. -/
def observed (session : Id) (history : List (Occurrence Operation DealerError (List Routed))) :
    Client × List Client.Heard :=
  history.foldl
    (fun seen occurrence =>
      let (client, heard) :=
        Client.hear session (recorded session seen.1 occurrence) (delivered occurrence)
      (client, seen.2 ++ heard))
    ({}, [])

/-- No client session refuses a result or an error that answers a call. -/
def AcceptsReplies (operations : List Operation) : Prop :=
  ∀ session heard, heard ∈ (observed session (Run.history perform {} operations)).2 →
    heard.1.answeredCall?.isSome = true → heard.2 = .ok ()

theorem observed_concat (session : Id)
    (history : List (Occurrence Operation DealerError (List Routed)))
    (occurrence : Occurrence Operation DealerError (List Routed)) :
    observed session (history ++ [occurrence]) =
      ((Client.hear session (recorded session (observed session history).1 occurrence)
          (delivered occurrence)).1,
        (observed session history).2 ++
          (Client.hear session (recorded session (observed session history).1 occurrence)
            (delivered occurrence)).2) := by
  unfold observed
  rw [List.foldl_append]
  rfl

/-- A call is on record once it is sent and stays there until its session attaches anew. -/
theorem mem_calls_recorded {session request : Id} {client : Client}
    {occurrence : Occurrence Operation DealerError (List Routed)}
    (hmem : occurrence.operation.call? = some { caller := session, request } ∨
      request ∈ client.calls)
    (hattach : ∀ details, occurrence.operation = .attach details → details.id = session →
      ∃ error, occurrence.answer = .error error) :
    request ∈ (recorded session client occurrence).calls := by
  obtain ⟨operation, answer⟩ := occurrence
  unfold recorded
  cases operation with
  | attach details =>
      have hold := hmem.resolve_left nofun
      cases answer with
      | error error => exact hold
      | ok routed =>
          simp only
          split
          next hsession =>
            obtain ⟨error, herror⟩ := hattach details rfl hsession
            contradiction
          next => exact hold
  | receive ambient sender message =>
      simp only
      split
      next hsender =>
        rw [Client.mem_calls_send]
        rcases hmem with hcall | hold
        · cases message with
          | call call =>
              simp only [Operation.call?, Option.some.injEq, CallKey.mk.injEq] at hcall
              exact Or.inl ⟨call, rfl, hcall.2⟩
          | _ => simp [Operation.call?] at hcall
        · exact Or.inr hold
      next hsender =>
        apply hmem.resolve_left
        intro hcall
        cases message with
        | call call =>
            simp only [Operation.call?, Option.some.injEq, CallKey.mk.injEq] at hcall
            exact hsender hcall.1
        | _ => simp [Operation.call?] at hcall
  | detach session => exact hmem.resolve_left nofun
  | disclose on => exact hmem.resolve_left nofun

/-! ## Quiet runs keep the promise -/

/-- What a quiet run has reached: every call in flight awaits its final reply, and the client
session of its caller has it on record. -/
structure Settled (operations : List Operation) : Prop where
  linked : (Run.final perform {} operations).Linked
  awaited : ∀ key, key ∈ (Run.final perform {} operations).invocationOf →
    Awaits (timeline operations) key
  onRecord : ∀ session request, ({ caller := session, request } : CallKey) ∈
      (Run.final perform {} operations).invocationOf →
    request ∈ (observed session (Run.history perform {} operations)).1.calls

theorem settled_nil : Settled [] where
  linked := linked_empty
  awaited := by simp
  onRecord := by simp

namespace Settled

variable {operations : List Operation}

theorem answersOnce_concat (hsettled : Settled operations)
    (honce : AnswersOnce (timeline operations)) (operation : Operation) :
    AnswersOnce (timeline (operations ++ [operation])) := by
  rw [timeline_concat]
  cases hanswer : (perform (Run.final perform {} operations) operation).answer with
  | error error =>
      rw [exchanged_of_refused, List.append_nil]
      exact honce
  | ok routed =>
      have haccounts := hsettled.linked.accounts (serves_of_granted hanswer)
      exact haccounts.answersOnce hsettled.awaited honce

/-- Whatever call an operation may answer is on record by then. -/
theorem mem_calls_recorded (hsettled : Settled operations) {operation : Operation}
    {state : Dealer} {routed : List Routed}
    (haccounts : (Run.final perform {} operations).Accounts operation state routed)
    {session request : Id}
    (hmem : operation.call? = some { caller := session, request } ∨
      ({ caller := session, request } : CallKey) ∈
        (Run.final perform {} operations).invocationOf) :
    request ∈ (recorded session (observed session (Run.history perform {} operations)).1
      { operation, answer := .ok routed }).calls := by
  apply Dealer.mem_calls_recorded (hmem.imp_right (hsettled.onRecord session request))
  rintro details rfl rfl
  exact absurd (hmem.resolve_left nofun) (haccounts.vacant details rfl request)

theorem acceptsReplies_concat (hsettled : Settled operations)
    (haccepts : AcceptsReplies operations) (operation : Operation) :
    AcceptsReplies (operations ++ [operation]) := by
  intro session heard hmem hanswers
  rw [Run.history_concat, observed_concat, List.mem_append] at hmem
  rcases hmem with hold | hnew
  · exact haccepts session heard hold hanswers
  · cases hanswer : (perform (Run.final perform {} operations) operation).answer with
    | error error => simp [hanswer, delivered, Client.hear] at hnew
    | ok routed =>
        have haccounts := hsettled.linked.accounts (serves_of_granted hanswer)
        rw [hanswer] at hnew
        refine Client.answer_hear session _ routed ?_ haccounts.once hnew hanswers
        intro request hrequest
        exact hsettled.mem_calls_recorded haccounts (haccounts.expected _ hrequest)

theorem concat (hsettled : Settled operations) {operation : Operation}
    (hfresh : ((Run.final perform {} operations).perform operation).state.ids ≠
      (Run.final perform {} operations).ids → (Run.final perform {} operations).HasFreshId)
    (hquiet : ∀ key, ¬ (Run.final perform {} operations).Overlooks operation key) :
    Settled (operations ++ [operation]) := by
  have hlinked := hsettled.linked.perform operation hfresh
  cases hanswer : (perform (Run.final perform {} operations) operation).answer with
  | error error =>
      have hstate := (refuses_of_refused hanswer).2
      refine ⟨by rwa [Run.final_concat], ?_, ?_⟩
      · intro key hmem
        rw [Run.final_concat, hstate] at hmem
        rw [timeline_concat, hanswer, exchanged_of_refused, List.append_nil]
        exact hsettled.awaited key hmem
      · intro session request hmem
        rw [Run.final_concat, hstate] at hmem
        rw [Run.history_concat, observed_concat, hanswer]
        exact Dealer.mem_calls_recorded (Or.inr (hsettled.onRecord session request hmem))
          fun _ _ _ => ⟨error, rfl⟩
  | ok routed =>
      have haccounts := hsettled.linked.accounts (serves_of_granted hanswer)
      have hended : ∀ key,
          key ∈ (perform (Run.final perform {} operations) operation).state.invocationOf →
          key ∉ routed.filterMap Routed.endedCall? := by
        intro key hmem hended
        obtain ⟨hcall, hold, hrouted⟩ := haccounts.settled key hmem hended
        exact hquiet key ⟨hcall, hold, by rw [hanswer, hrouted]⟩
      refine ⟨by rwa [Run.final_concat], ?_, ?_⟩
      · intro key hmem
        rw [Run.final_concat] at hmem
        rw [timeline_concat, hanswer]
        exact haccounts.awaits hsettled.awaited hmem (hended key hmem)
      · intro session request hmem
        rw [Run.final_concat] at hmem
        rw [Run.history_concat, observed_concat, hanswer]
        rw [Client.mem_calls_hear]
        exact ⟨hsettled.mem_calls_recorded haccounts (haccounts.awaited _ hmem),
          hended _ hmem⟩

end Settled

theorem answersOnce_nil : AnswersOnce (timeline []) := by
  intro before key after hsplit
  simp [timeline, Run.history] at hsplit

theorem acceptsReplies_nil : AcceptsReplies [] := by
  intro session heard hmem
  simp [observed, Run.history] at hmem

theorem Quiet.keepsPromise {operations : List Operation} (hquiet : Quiet operations)
    (hfresh : DrawsFresh operations) :
    Settled operations ∧ AnswersOnce (timeline operations) ∧ AcceptsReplies operations := by
  -- The last operation is taken off, because `Settled` relates the calls in flight to all that was
  -- exchanged before.
  induction operations using List.reverseRecOn with
  | nil => exact ⟨settled_nil, answersOnce_nil, acceptsReplies_nil⟩
  | append_singleton operations operation ih =>
      obtain ⟨hsettled, honce, haccepts⟩ := ih hquiet.of_append hfresh.of_append
      exact ⟨hsettled.concat hfresh.last hquiet.last, hsettled.answersOnce_concat honce operation,
        hsettled.acceptsReplies_concat haccepts operation⟩

/-! ## Runs that are not quiet may break it -/

theorem linked_of_drawsFresh {operations : List Operation} (hfresh : DrawsFresh operations) :
    (Run.final perform {} operations).Linked := by
  induction operations using List.reverseRecOn with
  | nil => exact linked_empty
  | append_singleton operations operation ih =>
      rw [Run.final_concat]
      exact (ih hfresh.of_append).perform operation hfresh.last

theorem Overlooks.state_eq {dealer : Dealer} {operation : Operation} {key : CallKey}
    (hoverlooks : dealer.Overlooks operation key) :
    (dealer.perform operation).state = dealer := by
  obtain ⟨hcall, -, hanswer⟩ := hoverlooks
  have hserves := serves_of_granted hanswer
  generalize (dealer.perform operation).state = state at hserves ⊢
  generalize hrouted : [failure key.caller .call key.request ErrorUri.noSuchProcedure] = routed
    at hserves
  cases hserves with
  | unresolved => rfl
  | dispatched | continued | closed => simp [failure] at hrouted
  | _ => simp [Operation.call?] at hcall

/-- The result by which a callee ends an invocation in flight. -/
def finishing (invocation : Id) (pending : Pending) : Operation :=
  .receive { drawnId := 0, drawnIndex := 0, now := "" } pending.callee
    (.yield { request := invocation, options := ∅ })

theorem Linked.answer_finishing {dealer : Dealer} (hlinked : dealer.Linked) {invocation : Id}
    {pending : Pending} (hpending : dealer.pending[invocation]? = some pending) :
    ∃ message : Message, message.endedCall? = some pending.request ∧
      (dealer.perform (finishing invocation pending)).answer =
        .ok [{ recipient := pending.caller, message }] := by
  have hattached := hlinked.caller_attached invocation pending hpending
  obtain ⟨caller, hcaller⟩ := isAttached_iff.mp hattached
  have hfound : dealer.pendingFor? pending.callee invocation = some pending :=
    pendingFor?_eq_some.mpr ⟨hpending, rfl⟩
  have hid := hlinked.session_id _ _ hcaller
  have hfinal : (∅ : Dict).flag "progress" = false := rfl
  simp only [finishing, Dealer.perform, receive, yield, hfound, hcaller, hid, hfinal,
    Bool.and_false]
  cases pending.canceled with
  | true => exact ⟨_, rfl, rfl⟩
  | false => exact ⟨_, rfl, rfl⟩

/-- A call that has been overlooked may be answered a second time, and then the client session
of its caller refuses the second reply. -/
theorem Overlooks.exists_broken {operations : List Operation} {operation : Operation}
    {key : CallKey} (hlinked : (Run.final perform {} operations).Linked)
    (hoverlooks : (Run.final perform {} operations).Overlooks operation key) :
    ∃ next, ¬ AnswersOnce (timeline (operations ++ [operation] ++ [next])) ∧
      ¬ AcceptsReplies (operations ++ [operation] ++ [next]) := by
  have hstate := hoverlooks.state_eq
  obtain ⟨hcall, hmem, hanswer⟩ := hoverlooks
  obtain ⟨invocation, hindex⟩ := Table.mem_iff_exists.mp hmem
  obtain ⟨pending, hpending, rfl⟩ := (hlinked.indexed _ _).mp hindex
  -- The callee of the overlooked invocation ends it right after the error.
  obtain ⟨message, hended, hfinishing⟩ := hlinked.answer_finishing hpending
  have hfinal : Run.final perform {} (operations ++ [operation]) =
      Run.final perform {} operations := by
    rw [Run.final_concat, hstate]
  have hoverlooked : [failure pending.key.caller .call pending.key.request
      ErrorUri.noSuchProcedure].filterMap Routed.endedCall? = [pending.key] := rfl
  refine ⟨finishing invocation pending, ?_, ?_⟩
  · have hexchanges :
        timeline (operations ++ [operation] ++ [finishing invocation pending]) =
          timeline operations ++
            [.called pending.key, .replied pending.key, .replied pending.key] := by
      have hreply : Routed.endedCall? { recipient := pending.caller, message } =
          some pending.key := Routed.endedCall?_eq_some.mpr ⟨rfl, hended⟩
      rw [timeline_concat, timeline_concat, hfinal, hfinishing, hanswer]
      have hcalls : (finishing invocation pending).call? = none := rfl
      simp [exchanged, hcall, hoverlooked, hcalls, hreply]
    rw [hexchanges]
    exact not_answersOnce_of_twice _ _
  · intro haccepts
    rw [AcceptsReplies] at haccepts
    have hverdicts := haccepts pending.caller
    rw [Run.history_concat, observed_concat, hfinal, hfinishing] at hverdicts
    let client := recorded pending.caller
      (observed pending.caller (Run.history perform {} (operations ++ [operation]))).1
      { operation := finishing invocation pending
        answer := .ok [{ recipient := pending.caller, message }] }
    have hanswered := Message.answeredCall?_of_endedCall? hended
    have haccepted : (client.receive message).answer = .ok () := by
      apply hverdicts (message, (client.receive message).answer)
      · simp [delivered, Client.hear, client]
      · rw [hanswered]
        rfl
    have hrecorded := (client.answer_receive_iff hanswered).mp haccepted
    have hheld : pending.request ∈
        (observed pending.caller (Run.history perform {} (operations ++ [operation]))).1.calls := by
      simp only [client, recorded, finishing] at hrecorded
      split at hrecorded
      next =>
        rw [Client.mem_calls_send] at hrecorded
        exact hrecorded.resolve_left (by simp)
      next => exact hrecorded
    rw [Run.history_concat, observed_concat, hanswer, Client.mem_calls_hear] at hheld
    apply hheld.2
    simp only [delivered, hoverlooked]
    exact List.mem_singleton_self _

/-- Quiet runs keep the promise, and they are the runs of which it can be relied on: a run is
quiet exactly if at no point the next operation, whatever it is, can bring a second final reply
to one call, and exactly if at no point it can bring a reply that a client session refuses. -/
theorem quiet_iff_answersOnce (operations : List Operation) (hfresh : DrawsFresh operations) :
    (Quiet operations → AnswersOnce (timeline operations) ∧ AcceptsReplies operations) ∧
    (Quiet operations ↔ ∀ before next, before <+: operations →
      AnswersOnce (timeline (before ++ [next]))) ∧
    (Quiet operations ↔ ∀ before next, before <+: operations →
      AcceptsReplies (before ++ [next])) := by
  have hkeeps : Quiet operations → ∀ before next, before <+: operations →
      AnswersOnce (timeline (before ++ [next])) ∧ AcceptsReplies (before ++ [next]) := by
    rintro hquiet before next ⟨rest, rfl⟩
    have hearlier : Quiet before := hquiet.of_append
    obtain ⟨hsettled, honce, haccepts⟩ := hearlier.keepsPromise hfresh.of_append
    exact ⟨hsettled.answersOnce_concat honce next, hsettled.acceptsReplies_concat haccepts next⟩
  have hbreaks : ¬ Quiet operations → ∃ before next, before <+: operations ∧
      ¬ AnswersOnce (timeline (before ++ [next])) ∧ ¬ AcceptsReplies (before ++ [next]) := by
    intro hloud
    simp only [Quiet, Run.Throughout, not_forall, not_not, exists_prop] at hloud
    obtain ⟨before, operation, after, rfl, key, hoverlooks⟩ := hloud
    obtain ⟨next, honce, haccepts⟩ :=
      hoverlooks.exists_broken (linked_of_drawsFresh hfresh.of_append)
    exact ⟨before ++ [operation], next, ⟨after, by simp⟩, honce, haccepts⟩
  refine ⟨?_, ?_, ?_⟩
  · intro hquiet
    exact (hquiet.keepsPromise hfresh).2
  · refine ⟨fun hquiet before next hprefix => (hkeeps hquiet before next hprefix).1, ?_⟩
    intro honce
    by_contra hloud
    obtain ⟨before, next, hprefix, hbroken, -⟩ := hbreaks hloud
    exact hbroken (honce before next hprefix)
  · refine ⟨fun hquiet before next hprefix => (hkeeps hquiet before next hprefix).2, ?_⟩
    intro haccepts
    by_contra hloud
    obtain ⟨before, next, hprefix, -, hbroken⟩ := hbreaks hloud
    exact hbroken (haccepts before next hprefix)

/-- A call is repeated before its first invocation is answered. -/
def repeatedCall (again : String) : List Operation :=
  let member (id : Id) : Session :=
    { id, realm := "realm1", authid := "", authrole := "", staticSerializer := false }
  let ambient : Ambient := { drawnId := 7, drawnIndex := 0, now := "" }
  [.attach (member 1), .attach (member 2),
    .receive ambient 1 (.register { request := 1, options := ∅, procedure := "com.sum" }),
    .receive ambient 2 (.call { request := 1, options := ∅, procedure := "com.sum" }),
    .receive ambient 2 (.call { request := 1, options := ∅, procedure := again }),
    .receive ambient 1 (.yield { request := 1, options := ∅ }),
    .receive ambient 1 (.yield { request := 2, options := ∅ })]

theorem quiet_iff_answersOnce_repeatedCall :
    DrawsFresh (repeatedCall "com.sum") ∧ Quiet (repeatedCall "com.sum") ∧
      AnswersOnce (timeline (repeatedCall "com.sum")) ∧
      AcceptsReplies (repeatedCall "com.sum") := by
  have hdrawn : drawnIds (repeatedCall "com.sum") = [1, 2] := by decide +kernel
  have hfresh : DrawsFresh (repeatedCall "com.sum") := by
    apply drawsFresh_of_length
    rw [hdrawn]
    decide
  have hquiet : Quiet (repeatedCall "com.sum") := by
    apply quiet_of_history
    decide +kernel
  obtain ⟨honce, haccepts⟩ := (quiet_iff_answersOnce (repeatedCall "com.sum") hfresh).1 hquiet
  exact ⟨hfresh, hquiet, honce, haccepts⟩

/-- The repeated call resolves to no procedure, and then its first invocation is answered. -/
theorem not_answersOnce_repeatedCall :
    ¬ AnswersOnce (timeline (repeatedCall "com.none")) ∧
      ¬ AcceptsReplies (repeatedCall "com.none") := by
  constructor
  · have hexchanges : timeline (repeatedCall "com.none") =
        [.called { caller := 2, request := 1 }] ++
          [.called { caller := 2, request := 1 }, .replied { caller := 2, request := 1 },
            .replied { caller := 2, request := 1 }] := by decide +kernel
    rw [hexchanges]
    exact not_answersOnce_of_twice _ _
  · intro haccepts
    have hrefused : ∃ heard ∈
        (observed 2 (Run.history perform {} (repeatedCall "com.none"))).2,
        heard.1.answeredCall?.isSome = true ∧ heard.2 ≠ .ok () := by decide +kernel
    obtain ⟨heard, hmem, hanswers, hrefused⟩ := hrefused
    exact hrefused (haccepts 2 heard hmem hanswers)

end Wamp.Dealer
