import Wamp.Proofs.Client
import Wamp.Proofs.Dealer.InFlight

/-!
# Replies to calls

A caller is promised one final reply for each of its calls.  Here a run is read as the sequence
of the calls that were accepted and the final replies that were sent.  What one operation adds to
the sequence is related to the calls in flight before and after it.
-/

namespace Wamp

namespace Dealer

def Operation.call? : Operation → Option CallKey
  | .receive _ session (.call request) => some { caller := session, request := request.request }
  | .receive _ _ _ | .attach _ | .detach _ | .disclose _ => none

/-- What an operation has to do with the calls in flight: it answers at most one call, which is
its own or in flight, and leaves no answered call in flight that it does not overlook. -/
structure Accounts (dealer : Dealer) (operation : Operation) (state : Dealer)
    (routed : List Routed) : Prop where
  once : (routed.filterMap Routed.answeredCall?).length ≤ 1
  expected : ∀ key, key ∈ routed.filterMap Routed.answeredCall? →
    operation.call? = some key ∨ key ∈ dealer.invocationOf
  awaited : ∀ key, key ∈ state.invocationOf →
    operation.call? = some key ∨ key ∈ dealer.invocationOf
  settled : ∀ key, key ∈ state.invocationOf → key ∈ routed.filterMap Routed.endedCall? →
    operation.call? = some key ∧ key ∈ dealer.invocationOf ∧
      routed = [failure key.caller .call key.request ErrorUri.noSuchProcedure]
  vacant : ∀ session, operation = .attach session → ∀ request,
    ({ caller := session.id, request } : CallKey) ∉ dealer.invocationOf

theorem mem_of_endedCall? {key : CallKey} {routed : List Routed}
    (hmem : key ∈ routed.filterMap Routed.endedCall?) :
    key ∈ routed.filterMap Routed.answeredCall? := by
  obtain ⟨message, hmessage, hended⟩ := List.mem_filterMap.mp hmem
  exact List.mem_filterMap.mpr ⟨message, hmessage, Routed.answeredCall?_of_endedCall? hended⟩

theorem length_ended_le (routed : List Routed) :
    (routed.filterMap Routed.endedCall?).length ≤
      (routed.filterMap Routed.answeredCall?).length := by
  rw [List.length_filterMap_eq_countP, List.length_filterMap_eq_countP]
  apply List.countP_mono_left
  intro message _ hended
  obtain ⟨key, hkey⟩ := Option.isSome_iff_exists.mp hended
  rw [Routed.answeredCall?_of_endedCall? hkey]
  rfl

section Accounts

variable {dealer : Dealer} {operation : Operation} {state : Dealer} {routed : List Routed}

theorem mem_invocationOf_of_dropPending {invocation : Id} {key : CallKey}
    (hmem : key ∈ (dealer.dropPending invocation).invocationOf) : key ∈ dealer.invocationOf := by
  unfold dropPending at hmem
  split at hmem
  next => exact hmem
  next =>
    simp only at hmem
    split at hmem
    next => exact Std.ExtTreeMap.mem_of_mem_erase hmem
    next => exact hmem

theorem mem_invocationOf_of_foldl {invocations : List Id} {key : CallKey}
    (hmem : key ∈ (invocations.foldl dropPending dealer).invocationOf) :
    key ∈ dealer.invocationOf := by
  induction invocations generalizing dealer with
  | nil => exact hmem
  | cons invocation rest ih => exact mem_invocationOf_of_dropPending (ih hmem)

theorem mem_invocationOf_of_launch {pending : Pending} {key : CallKey}
    (hmem : key ∈ (dealer.launch pending).2.invocationOf) :
    pending.key = key ∨ key ∈ dealer.invocationOf := by
  rw [launch_eq] at hmem
  simp only [Std.ExtTreeMap.mem_insert, Std.LawfulEqCmp.compare_eq_iff_eq] at hmem
  rcases hmem with hkey | hold
  · exact Or.inl hkey
  · right
    unfold superseded at hold
    split at hold
    next => exact hold
    next => exact mem_invocationOf_of_dropPending hold

theorem accounts_of_unanswered (hanswered : routed.filterMap Routed.answeredCall? = [])
    (hawaited : ∀ key, key ∈ state.invocationOf →
      operation.call? = some key ∨ key ∈ dealer.invocationOf)
    (hattach : ∀ session, operation ≠ .attach session) :
    dealer.Accounts operation state routed where
  once := by simp [hanswered]
  expected key hmem := by simp [hanswered] at hmem
  awaited := hawaited
  settled key _ hended := by
    have hmem := mem_of_endedCall? hended
    simp [hanswered] at hmem
  vacant session hoperation := absurd hoperation (hattach session)

theorem Linked.mem_invocationOf (hlinked : dealer.Linked) {invocation : Id} {pending : Pending}
    (hpending : dealer.pending[invocation]? = some pending) :
    pending.key ∈ dealer.invocationOf :=
  Table.mem_of_getElem? (hlinked.indexed.getElem?_key hpending)

/-- An answered call is forgotten with its invocation. -/
theorem Linked.accounts_dropPending (hlinked : dealer.Linked) {invocation : Id}
    {pending : Pending} (hpending : dealer.pending[invocation]? = some pending)
    (hanswered : routed.filterMap Routed.answeredCall? = [pending.key])
    (hattach : ∀ session, operation ≠ .attach session) :
    dealer.Accounts operation (dealer.dropPending invocation) routed where
  once := by simp [hanswered]
  expected key hmem := by
    rw [hanswered, List.mem_singleton] at hmem
    rw [hmem]
    exact Or.inr (hlinked.mem_invocationOf hpending)
  awaited key hmem := Or.inr (mem_invocationOf_of_dropPending hmem)
  settled key hmem hended := by
    have hkey := mem_of_endedCall? hended
    rw [hanswered, List.mem_singleton] at hkey
    rw [hlinked.indexed.invocationOf_dropPending hpending, hkey] at hmem
    simp at hmem
  vacant session hoperation := absurd hoperation (hattach session)

theorem Linked.not_mem_invocationOf (hlinked : dealer.Linked) {session : Id}
    (hnew : dealer.isAttached session = false) (request : Id) :
    ({ caller := session, request } : CallKey) ∉ dealer.invocationOf := by
  intro hmem
  obtain ⟨invocation, hindex⟩ := Table.mem_iff_exists.mp hmem
  obtain ⟨pending, hpending, hkey⟩ := (hlinked.indexed _ _).mp hindex
  have hattached := hlinked.caller_attached invocation pending hpending
  have hcaller : pending.caller = session := congrArg CallKey.caller hkey
  rw [hcaller, hnew] at hattached
  contradiction

theorem Linked.accounts (hlinked : dealer.Linked)
    (hserves : dealer.Serves operation state routed) :
    dealer.Accounts operation state routed := by
  cases hserves with
  | attached session hnew =>
      exact {
        once := by simp
        expected := by simp
        awaited := fun key hmem => Or.inr hmem
        settled := by simp
        vacant := by
          rintro _ ⟨⟩ request
          exact hlinked.not_mem_invocationOf hnew request }
  | detached session =>
      refine accounts_of_unanswered rfl (fun key hmem => Or.inr ?_) (by simp)
      have hkept := mem_invocationOf_of_foldl hmem
      obtain ⟨_, _, hwithdrawn⟩ := dealer.withdrawn_eq session
      rwa [hwithdrawn] at hkept
  | disclosed | registered | joined | rejected =>
      exact accounts_of_unanswered rfl (fun key hmem => Or.inr hmem) (by simp)
  | unregistered ambient session request ids =>
      refine accounts_of_unanswered rfl (fun key hmem => Or.inr ?_) (by simp)
      obtain ⟨_, _, hreleased⟩ := dealer.released_eq session ids request.registration
      rwa [hreleased] at hmem
  | unresolved ambient session request =>
      have hanswered : [failure session .call request.request ErrorUri.noSuchProcedure].filterMap
          Routed.answeredCall? = [{ caller := session, request := request.request }] := rfl
      refine ⟨by simp [hanswered], ?_, fun key hmem => Or.inr hmem, ?_, by simp⟩
      · intro key hmem
        rw [hanswered, List.mem_singleton] at hmem
        exact Or.inl (by rw [hmem]; rfl)
      · intro key hmem hended
        have hkey := mem_of_endedCall? hended
        rw [hanswered, List.mem_singleton] at hkey
        subst hkey
        exact ⟨rfl, hmem, rfl⟩
  | dispatched | closed =>
      refine accounts_of_unanswered rfl (fun key hmem => ?_) (by simp)
      rcases mem_invocationOf_of_launch hmem with hkey | hold
      · left
        rw [← hkey]
        rfl
      · exact Or.inr hold
  | continued => exact accounts_of_unanswered rfl (fun key hmem => Or.inr hmem) (by simp)
  | killed ambient session request pending caller hpending hcaller =>
      have hfound := (pendingFor?_eq_some.mp hpending).1
      refine hlinked.accounts_dropPending hfound ?_ (by simp)
      rw [hlinked.session_id _ _ hcaller]
      rfl
  | progressed ambient session request pending caller hpending hcaller =>
      have hfound := (pendingFor?_eq_some.mp hpending).1
      have hanswered : [{
          recipient := caller.id
          message := .result (relayed pending caller request true) : Routed }].filterMap
          Routed.answeredCall? = [pending.key] := by
        rw [hlinked.session_id _ _ hcaller]
        rfl
      refine ⟨by simp [hanswered], ?_, fun key hmem => Or.inr hmem, ?_, by simp⟩
      · intro key hmem
        rw [hanswered, List.mem_singleton] at hmem
        rw [hmem]
        exact Or.inr (hlinked.mem_invocationOf hfound)
      · intro key _ hended
        simp [Routed.endedCall?, Message.endedCall?, relayed, Dict.flag, Json.isTrue] at hended
  | finished ambient session request pending caller hpending hcaller =>
      have hfound := (pendingFor?_eq_some.mp hpending).1
      refine hlinked.accounts_dropPending hfound ?_ (by simp)
      rw [hlinked.session_id _ _ hcaller]
      rfl
  | failed ambient session reply pending hanswers hpending =>
      have hfound := (pendingFor?_eq_some.mp hpending).1
      exact hlinked.accounts_dropPending hfound rfl (by simp)
  | skipped ambient session request invocation pending hmode hindex hpending =>
      refine hlinked.accounts_dropPending hpending ?_ (by simp)
      rw [hlinked.indexed.key_of_invocationOf hindex hpending]
      rfl
  | interrupted ambient session request invocation pending hmode hindex hpending =>
      exact accounts_of_unanswered rfl (fun key hmem => Or.inr hmem) (by simp)
  | aborted ambient session request invocation pending hmode hindex hpending =>
      refine hlinked.accounts_dropPending hpending ?_ (by simp)
      rw [hlinked.indexed.key_of_invocationOf hindex hpending]
      rfl

end Accounts

/-! ## The sequence of calls and final replies -/

inductive Exchange where
  | called (key : CallKey)
  | replied (key : CallKey)
  deriving DecidableEq

/-- What the callers see of an operation: an accepted call, and the final replies. -/
def exchanged (occurrence : Occurrence Operation DealerError (List Routed)) : List Exchange :=
  match occurrence.answer with
  | .error _ => []
  | .ok routed =>
    occurrence.operation.call?.toList.map .called ++
      (routed.filterMap Routed.endedCall?).map .replied

def timeline (operations : List Operation) : List Exchange :=
  (Run.history perform {} operations).flatMap exchanged

/-- A call was accepted and has no final reply yet. -/
def Awaits (exchanges : List Exchange) (key : CallKey) : Prop :=
  ∃ before after, exchanges = before ++ .called key :: after ∧ .replied key ∉ after

/-- Every final reply is to a call that has none yet: one call was accepted before the first
final reply, and another one between any two. -/
def AnswersOnce (exchanges : List Exchange) : Prop :=
  ∀ before key after, exchanges = before ++ .replied key :: after → Awaits before key

theorem Awaits.append {exchanges more : List Exchange} {key : CallKey}
    (hawaits : Awaits exchanges key) (hmore : .replied key ∉ more) :
    Awaits (exchanges ++ more) key := by
  obtain ⟨before, after, rfl, hafter⟩ := hawaits
  refine ⟨before, after ++ more, by simp, ?_⟩
  rw [List.mem_append, not_or]
  exact ⟨hafter, hmore⟩

theorem AnswersOnce.append {exchanges more : List Exchange} (honce : AnswersOnce exchanges)
    (hmore : ∀ before key after, more = before ++ .replied key :: after →
      Awaits (exchanges ++ before) key) : AnswersOnce (exchanges ++ more) := by
  intro before key after hsplit
  rcases List.append_eq_append_iff.mp hsplit with ⟨middle, rfl, hmiddle⟩ | ⟨middle, hold, hnew⟩
  · exact hmore middle key after hmiddle
  · cases middle with
    | nil =>
        rw [List.append_nil] at hold
        rw [← hold]
        simpa using hmore [] key after (by simpa using hnew.symm)
    | cons first rest =>
        rw [List.cons_append, List.cons.injEq] at hnew
        obtain ⟨rfl, -⟩ := hnew
        exact honce before key rest hold

theorem not_answersOnce_of_twice (exchanges : List Exchange) (key : CallKey) :
    ¬ AnswersOnce (exchanges ++ [.called key, .replied key, .replied key]) := by
  intro honce
  obtain ⟨before, after, hsplit, hafter⟩ :=
    honce (exchanges ++ [.called key, .replied key]) key [] (by simp)
  have hconcat : (exchanges ++ [.called key]) ++ [.replied key] =
      before ++ .called key :: after := by
    simpa using hsplit
  rcases Run.concat_eq_append_cons hconcat with ⟨-, -, hlast⟩ | ⟨rest, rfl, -⟩
  · contradiction
  · simp at hafter

theorem timeline_concat (operations : List Operation) (operation : Operation) :
    timeline (operations ++ [operation]) = timeline operations ++
      exchanged {
        operation
        answer := (perform (Run.final perform {} operations) operation).answer } := by
  unfold timeline
  rw [Run.history_concat, List.flatMap_append]
  simp

theorem exchanged_of_refused {operation : Operation} {error : DealerError} :
    exchanged { operation, answer := .error error } = [] := rfl

section Accounts

variable {dealer state : Dealer} {operation : Operation} {routed : List Routed}
  {exchanges : List Exchange}

theorem Accounts.answersOnce (haccounts : dealer.Accounts operation state routed)
    (hawaits : ∀ key, key ∈ dealer.invocationOf → Awaits exchanges key)
    (honce : AnswersOnce exchanges) :
    AnswersOnce (exchanges ++ exchanged { operation, answer := .ok routed }) := by
  apply honce.append
  intro before key after hsplit
  have hended : key ∈ routed.filterMap Routed.endedCall? := by
    have hmem : .replied key ∈ exchanged { operation, answer := .ok routed } := by
      rw [hsplit]
      simp
    simpa [exchanged] using hmem
  have hsole : routed.filterMap Routed.endedCall? = [key] := by
    have hlength := Nat.le_trans (length_ended_le routed) haccounts.once
    obtain ⟨other, hother⟩ := List.length_eq_one_iff.mp
      (Nat.le_antisymm hlength (List.length_pos_of_mem hended))
    rw [hother, List.mem_singleton] at hended
    rw [hother, hended]
  have hexpected := haccounts.expected key (mem_of_endedCall? hended)
  cases hcall : operation.call? with
  | none =>
      have hbefore : before = [] := by
        have hparts : before = [] ∧ after = [] := by
          simpa [exchanged, hcall, hsole, List.singleton_eq_append_iff] using hsplit
        exact hparts.1
      have hold := hexpected.resolve_left (by simp [hcall])
      simpa [hbefore] using hawaits key hold
  | some called =>
      have hparts : [.called called, .replied key] = before ++ .replied key :: after := by
        simpa [exchanged, hcall, hsole] using hsplit
      have hbefore : before = [.called called] := by
        cases before with
        | nil => simp at hparts
        | cons first rest =>
            have hrest : rest = [] ∧ after = [] := by
              simpa [List.singleton_eq_append_iff] using (List.cons.inj hparts).2
            rw [hrest.1, (List.cons.inj hparts).1]
      rw [hbefore]
      rcases hexpected with hsame | hold
      · rw [hcall, Option.some.injEq] at hsame
        rw [hsame]
        exact ⟨exchanges, [], rfl, by simp⟩
      · exact (hawaits key hold).append (by simp)

theorem Accounts.awaits (haccounts : dealer.Accounts operation state routed)
    (hawaits : ∀ key, key ∈ dealer.invocationOf → Awaits exchanges key) {key : CallKey}
    (hmem : key ∈ state.invocationOf) (hended : key ∉ routed.filterMap Routed.endedCall?) :
    Awaits (exchanges ++ exchanged { operation, answer := .ok routed }) key := by
  have hreplied : .replied key ∉ exchanged { operation, answer := .ok routed } := by
    simpa [exchanged] using hended
  rcases haccounts.awaited key hmem with hcall | hold
  · refine ⟨exchanges, (routed.filterMap Routed.endedCall?).map .replied, ?_, ?_⟩
    · simp [exchanged, hcall]
    · simpa using hended
  · exact (hawaits key hold).append hreplied

end Accounts

end Dealer

end Wamp
