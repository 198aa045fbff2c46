import Wamp.Proofs.Client.Refusals
import Wamp.Proofs.Table

/-!
# Answers to invocations

A client answers an invocation with a yield or with an error.  A session accepts a yield exactly
if an invocation with its identifier has arrived and was not answered for good since.  An error is
accepted in any case; one that answers nothing changes nothing, but it goes out to the router.
-/

namespace Wamp

/-- The invocation that brings an identifier. -/
def Message.invoked? : Message → Option Id
  | .invocation request => some request.request
  | _ => none

/-- The invocation that a yield or an error answers. -/
def Message.answeredInvocation? : Message → Option Id
  | .yield answer => some answer.request
  | .error reply => if reply.answers = .invocation then some reply.request else none
  | _ => none

theorem Message.answeredInvocation?_error {reply : ErrorReply} {request : Id} :
    Message.answeredInvocation? (.error reply) = some request ↔
      reply.answers = .invocation ∧ reply.request = request := by
  rw [answeredInvocation?, Option.ite_none_right_eq_some, Option.some.injEq]

/-- The invocation that is answered for good; a progressive yield leaves it open. -/
def Message.endedInvocation? : Message → Option Id
  | .yield answer => if answer.options.flag "progress" then none else some answer.request
  | .error reply => if reply.answers = .invocation then some reply.request else none
  | _ => none

namespace Client

/-! ## The record of invocations -/

section

variable (client : Client)

theorem mem_invocations_send (message : Message) (request : Id) :
    request ∈ (client.send message).state.invocations ↔
      request ∈ client.invocations ∧ message.endedInvocation? ≠ some request := by
  cases message with
  | yield answer =>
      simp only [send, Message.endedInvocation?]
      split
      next =>
        split
        next => simp
        next => simp [and_comm]
      next hunknown =>
        rw [Outcome.state_refused, Std.ExtTreeSet.contains_iff_mem] at *
        refine ⟨fun hopen => ⟨hopen, fun hended => ?_⟩, And.left⟩
        simp only [Option.ite_none_left_eq_some, Option.some.injEq] at hended
        exact hunknown (hended.2 ▸ hopen)
  | error reply =>
      simp only [send, Message.endedInvocation?]
      split
      next => simp [and_comm]
      next => simp
  | cancel | unregister | publish | unsubscribe =>
      simp only [send, Message.endedInvocation?]
      split <;> simp
  | _ => simp [send, Message.endedInvocation?]

theorem mem_invocations_receive (message : Message) (request : Id) :
    request ∈ (client.receive message).state.invocations ↔
      ((client.receive message).answer = .ok () ∧ message.invoked? = some request) ∨
        request ∈ client.invocations := by
  by_cases hkind : message.requestKind? = some .invocation
  · cases message with
    | invocation arrived =>
        simp only [receive, Message.invoked?]
        split <;> simp
    | interrupt =>
        simp only [receive, Message.invoked?]
        split <;> simp
    | error reply =>
        have hanswers : reply.answers = .invocation := Option.some.inj hkind
        simp [receive, receiveError, hanswers, awaits?, Message.invoked?]
    | yield => simp [receive, Message.invoked?]
    | _ => simp [Message.requestKind?] at hkind
  · have hkept : (client.receive message).state.invocations = client.invocations :=
      Sum.inl.inj (client.outstanding_receive hkind)
    have hnot : message.invoked? ≠ some request := by
      cases message <;> simp_all [Message.invoked?, Message.requestKind?]
    simp [hkept, hnot]

theorem answer_send_yield (answer : Yield) :
    (client.send (.yield answer)).answer = .ok () ↔ answer.request ∈ client.invocations := by
  simp only [send]
  rw [← Std.ExtTreeSet.contains_iff_mem]
  split
  next hopen => split <;> simp [hopen]
  next hopen => simp [hopen]

theorem send_error {reply : ErrorReply} (hanswers : reply.answers = .invocation) :
    client.send (.error reply) =
      .granted { client with invocations := client.invocations.erase reply.request } () := by
  simp [send, hanswers]

theorem state_send_error {reply : ErrorReply} (hanswers : reply.answers = .invocation)
    (hunknown : reply.request ∉ client.invocations) :
    (client.send (.error reply)).state = client := by
  rw [client.send_error hanswers, Outcome.state_granted, Table.erase_of_not_mem hunknown]

end

/-! ## The accepted traffic -/

/-- An invocation has arrived that was not answered for good since. -/
def Invoked (request : Id) : List Operation → Prop :=
  Run.Since
    (fun operation => ∃ message, operation = .receive message ∧ message.invoked? = some request)
    (fun _ operation => ∃ message, operation = .send message ∧
      message.endedInvocation? = some request)

theorem invoked_concat_send {request : Id} {traffic : List Operation} {message : Message} :
    Invoked request (traffic ++ [.send message]) ↔
      Invoked request traffic ∧ message.endedInvocation? ≠ some request := by
  rw [Invoked, Run.since_concat]
  simp

theorem invoked_concat_receive {request : Id} {traffic : List Operation} {message : Message} :
    Invoked request (traffic ++ [.receive message]) ↔
      message.invoked? = some request ∨ Invoked request traffic := by
  rw [Invoked, Run.since_concat]
  simp

/-- The record holds the invocations that the traffic leaves open. -/
theorem mem_invocations_final (operations : List Operation) (request : Id) :
    request ∈ (Run.final perform {} operations).invocations ↔
      Invoked request (accepted {} operations) := by
  induction operations using List.reverseRecOn with
  | nil => exact iff_of_false Std.ExtTreeSet.not_mem_empty Run.not_since_nil
  | append_singleton operations operation ih =>
      rw [Run.final_concat]
      cases hanswer : (perform (Run.final perform {} operations) operation).answer with
      | ok =>
          rw [accepted_concat_ok hanswer]
          cases operation with
          | send message =>
              rw [invoked_concat_send, ← ih]
              exact mem_invocations_send _ message request
          | receive message =>
              rw [invoked_concat_receive, ← ih]
              refine (mem_invocations_receive _ message request).trans ?_
              rw [show (receive _ message).answer = .ok () from hanswer]
              simp
      | error error =>
          rw [accepted_concat_error hanswer, ← ih]
          cases operation with
          | send message =>
              rw [show (perform _ (.send message)).state = _ from state_send_of_error _ hanswer]
          | receive message =>
              refine (mem_invocations_receive _ message request).trans ?_
              rw [show (receive _ message).answer = .error error from hanswer]
              simp

/-- A yield that was accepted answers an invocation that was open. -/
theorem invoked_of_yield {operations before after : List Operation} {answer : Yield}
    (hsplit : accepted {} operations = before ++ .send (.yield answer) :: after) :
    Invoked answer.request before := by
  induction operations using List.reverseRecOn generalizing after with
  | nil => simp [accepted, Run.history] at hsplit
  | append_singleton operations operation ih =>
      cases hanswer : (perform (Run.final perform {} operations) operation).answer with
      | ok =>
          rw [accepted_concat_ok hanswer] at hsplit
          rcases Run.concat_eq_append_cons hsplit with ⟨-, rfl, rfl⟩ | ⟨rest, -, hearlier⟩
          · rw [← mem_invocations_final]
            exact (answer_send_yield _ answer).mp hanswer
          · exact ih hearlier
      | error error =>
          rw [accepted_concat_error hanswer] at hsplit
          exact ih hsplit

/-! ## Answers to what is open -/

/-- An answer to an invocation that is not open is refused and changes nothing. -/
def HoldsBack (client : Client) (traffic : List Operation) (message : Message) : Prop :=
  ∀ request, message.answeredInvocation? = some request → ¬ Invoked request traffic →
    ∃ error, client.send message = .refused client error

/-- Whatever answers an invocation answers one that is open, so that none is answered for good
again before it has arrived again. -/
def AnswersOpen (traffic : List Operation) : Prop :=
  ∀ before message after request, traffic = before ++ .send message :: after →
    message.answeredInvocation? = some request → Invoked request before

/-- An error answers an invocation that is not open. -/
def StrayError (traffic : List Operation) : Message → Prop
  | .error reply => reply.answers = .invocation ∧ ¬ Invoked reply.request traffic
  | _ => False

theorem holdsBack_iff (operations : List Operation) (message : Message) :
    (Run.final perform {} operations).HoldsBack (accepted {} operations) message ↔
      ¬ StrayError (accepted {} operations) message := by
  constructor
  · intro hholds
    cases message with
    | error reply =>
        rintro ⟨hanswers, hclosed⟩
        obtain ⟨error, hrefused⟩ := hholds reply.request (if_pos hanswers) hclosed
        rw [send_error _ hanswers] at hrefused
        exact absurd (congrArg Outcome.answer hrefused) (by simp)
    | _ => exact id
  · intro hstray request hanswers hclosed
    cases message with
    | yield answer =>
        obtain rfl := Option.some.inj hanswers
        rw [← mem_invocations_final, ← answer_send_yield] at hclosed
        cases hanswer : ((Run.final perform {} operations).send (.yield answer)).answer with
        | ok => exact absurd hanswer hclosed
        | error error => exact ⟨error, leavesNoTrace_send _ _ error hanswer⟩
    | error reply =>
        obtain ⟨hinvocation, rfl⟩ := Message.answeredInvocation?_error.mp hanswers
        exact absurd ⟨hinvocation, hclosed⟩ hstray
    | _ => simp [Message.answeredInvocation?] at hanswers

theorem answersOpen_iff (operations : List Operation) :
    AnswersOpen (accepted {} operations) ↔
      ∀ before message after, accepted {} operations = before ++ .send message :: after →
        ¬ StrayError before message := by
  constructor
  · intro hopen before message after hsplit hstray
    cases message with
    | error reply => exact hstray.2 (hopen before _ after _ hsplit (if_pos hstray.1))
    | _ => exact hstray
  · intro hnone before message after request hsplit hanswers
    cases message with
    | yield answer =>
        obtain rfl := Option.some.inj hanswers
        exact invoked_of_yield hsplit
    | error reply =>
        obtain ⟨hinvocation, rfl⟩ := Message.answeredInvocation?_error.mp hanswers
        by_contra hclosed
        exact hnone before _ after hsplit ⟨hinvocation, hclosed⟩
    | _ => simp [Message.answeredInvocation?] at hanswers

/-- In every run a yield is accepted exactly if it answers an invocation that is open, and is
refused otherwise.  An error that answers an invocation is always accepted; unless the invocation
is open it changes nothing.  So answers to what is not open are held back, and no invocation is
answered for good twice, exactly as long as no error is sent for one that is not open. -/
theorem invocation_answers_of_run (operations : List Operation) :
    let client := Run.final perform {} operations
    let traffic := accepted {} operations
    (∀ answer : Yield, (client.send (.yield answer)).answer = .ok () ↔
      Invoked answer.request traffic) ∧
    (∀ reply : ErrorReply, reply.answers = .invocation →
      (client.send (.error reply)).answer = .ok () ∧
        (¬ Invoked reply.request traffic → (client.send (.error reply)).state = client)) ∧
    (∀ message, client.HoldsBack traffic message ↔ ¬ StrayError traffic message) ∧
    (AnswersOpen traffic ↔
      ∀ before message after, traffic = before ++ .send message :: after →
        ¬ StrayError before message) := by
  intro client traffic
  refine ⟨?_, ?_, holdsBack_iff operations, answersOpen_iff operations⟩
  · intro answer
    rw [answer_send_yield]
    exact mem_invocations_final operations answer.request
  · intro reply hanswers
    refine ⟨by rw [client.send_error hanswers, Outcome.answer_granted], fun hclosed => ?_⟩
    rw [← mem_invocations_final] at hclosed
    exact client.state_send_error hanswers hclosed

section Chunks

def chunkOf (invocation : Id) : Operation :=
  .receive (.invocation { request := invocation, registration := 30, details := ∅ })

def resultOf (invocation : Id) (progress : Bool) : Message :=
  .yield { request := invocation, options := (∅ : Dict).insert "progress" (.boolean progress) }

def failureOf (invocation : Id) : Message :=
  .error { answers := .invocation, request := invocation, uri := "com.error.late" }

/-- Two invocations are open at once; one of them fails, and the other is answered step by step. -/
def answeredChunks : List Operation :=
  [.send (.register { request := 1, options := ∅, procedure := "com.sum" }),
    .receive (.registered { request := 1, registration := 30 }),
    chunkOf 12, chunkOf 13, .send (failureOf 13), chunkOf 12, .send (resultOf 12 true),
    .send (resultOf 12 false)]

/-- The next chunk opens the invocation again. -/
theorem invocation_answers_reopened :
    let client := Run.final perform {} (answeredChunks ++ [chunkOf 12])
    let traffic := accepted {} (answeredChunks ++ [chunkOf 12])
    Invoked 12 traffic ∧ ¬ Invoked 13 traffic ∧
      (client.send (resultOf 12 false)).answer = .ok () ∧
      (client.send (failureOf 12)).answer = .ok () ∧
      (client.send (failureOf 13)).state = client ∧
      ∃ error, client.send (resultOf 13 true) = .refused client error := by
  intro client traffic
  have hopen : Invoked 12 traffic :=
    (mem_invocations_final (answeredChunks ++ [chunkOf 12]) 12).mp (by decide +kernel)
  have hclosed : ¬ Invoked 13 traffic :=
    mt (mem_invocations_final (answeredChunks ++ [chunkOf 12]) 13).mpr (by decide +kernel)
  obtain ⟨hyields, herrors, hholds, -⟩ :=
    invocation_answers_of_run (answeredChunks ++ [chunkOf 12])
  exact ⟨hopen, hclosed, (hyields _).mpr hopen, (herrors _ rfl).1, (herrors _ rfl).2 hclosed,
    (hholds (resultOf 13 true)).mpr id 13 rfl hclosed⟩

/-- An invocation that has been answered for good is answered again, with an error. -/
theorem not_answersOpen_lateFailure :
    let client := Run.final perform {} answeredChunks
    let traffic := accepted {} answeredChunks
    ¬ Invoked 12 traffic ∧ (client.send (failureOf 12)).answer = .ok () ∧
      ¬ client.HoldsBack traffic (failureOf 12) ∧
      ¬ AnswersOpen (accepted {} (answeredChunks ++ [.send (failureOf 12)])) := by
  intro client traffic
  have hclosed : ¬ Invoked 12 traffic :=
    mt (mem_invocations_final answeredChunks 12).mpr (by decide +kernel)
  have hstray : StrayError traffic (failureOf 12) := ⟨rfl, hclosed⟩
  have haccepted : (client.send (failureOf 12)).answer = .ok () := by
    rw [failureOf, client.send_error rfl, Outcome.answer_granted]
  refine ⟨hclosed, haccepted, mt (holdsBack_iff answeredChunks _).mp (not_not.mpr hstray), ?_⟩
  have hlast : accepted {} (answeredChunks ++ [.send (failureOf 12)]) =
      traffic ++ [.send (failureOf 12)] := accepted_concat_ok haccepted
  intro hopen
  exact hclosed (hopen traffic (failureOf 12) [] 12 hlast rfl)

end Chunks

end Client

end Wamp
