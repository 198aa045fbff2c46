import Wamp.Proofs.Dealer.Routes

/-!
# Progressive results

With every chunk of a call its callee is told whether the caller receives progressive results.  The
dealer itself goes by the chunk that opened the invocation.  So a progressive result is relayed as
such exactly if the opening chunk asked for that, and the callee can rely on what it was told last
exactly if the last chunk asks for the same as the opening one.
-/

namespace Wamp

theorem Dict.flag_insert (dict : Dict) (key other : String) (value : Json) :
    Dict.flag (dict.insert key value) other =
      if key = other then value.isTrue else dict.flag other := by
  unfold flag
  rw [Std.ExtTreeMap.getElem?_insert]
  simp only [Std.LawfulEqCmp.compare_eq_iff_eq]
  split <;> rfl

/-- The callee is told that the caller receives progressive results. -/
def Invocation.announcesProgress (body : Invocation) : Bool :=
  body.details.flag "receive_progress"

namespace Dealer

/-! ## What callees are told -/

/-- An invocation as it was sent to a callee.  It opens one if its identifier was drawn for it, and
continues one otherwise. -/
structure Sent where
  opens : Bool
  body : Invocation

/-- The invocations under one identifier among what has to be delivered. -/
def bodies (invocation : Id) (routed : List Routed) : List Invocation :=
  routed.filterMap fun sent =>
    match sent.message with
    | .invocation body => if body.request = invocation then some body else none
    | _ => none

def sends (dealer : Dealer) (invocation : Id) (operation : Operation) : List Sent :=
  let outcome := dealer.perform operation
  match outcome.answer with
  | .error _ => []
  | .ok routed =>
    (bodies invocation routed).map fun body =>
      { opens := decide (outcome.state.ids ≠ dealer.ids), body }

/-- What a run sends under one identifier, in the order in which it is sent. -/
def sentBy (invocation : Id) (dealer : Dealer) : List Operation → List Sent
  | [] => []
  | operation :: rest =>
    dealer.sends invocation operation ++ sentBy invocation (dealer.perform operation).state rest

theorem sentBy_concat (invocation : Id) (dealer : Dealer) (operations : List Operation)
    (operation : Operation) :
    sentBy invocation dealer (operations ++ [operation]) =
      sentBy invocation dealer operations ++
        (Run.final perform dealer operations).sends invocation operation := by
  induction operations generalizing dealer with
  | nil => simp [sentBy]
  | cons first rest ih =>
      simp only [List.cons_append, sentBy, ih, Run.final_cons, List.append_assoc]

section Sends

variable {dealer : Dealer} {operation : Operation} {routed : List Routed} {invocation : Id}

theorem sends_of_error {error : DealerError}
    (hanswer : (dealer.perform operation).answer = .error error) :
    dealer.sends invocation operation = [] := by
  simp only [sends, hanswer]

/-- Whatever is sent without an identifier being drawn continues what is in flight. -/
theorem opens_of_ids_eq (hids : (dealer.perform operation).state.ids = dealer.ids) {sent : Sent}
    (hsent : sent ∈ dealer.sends invocation operation) : sent.opens = false := by
  simp only [sends] at hsent
  split at hsent
  next => simp at hsent
  next =>
    obtain ⟨body, -, rfl⟩ := List.mem_map.mp hsent
    simp [hids]

/-- The chunk that opens an invocation is all that is sent when it is put in flight. -/
theorem Launches.sends_eq {session : Id} {request : Call} {route : Route}
    (hlaunches : dealer.Launches session request route (dealer.perform operation).state routed)
    (hanswer : (dealer.perform operation).answer = .ok routed) (invocation : Id) :
    ∃ caller callee, dealer.sends invocation operation =
      if dealer.ids.next.1 = invocation then
        [{ opens := true, body := dealer.chunk caller callee route request dealer.ids.next.1 }]
      else [] := by
  obtain ⟨caller, callee, rfl⟩ := hlaunches.sent
  refine ⟨caller, callee, ?_⟩
  unfold sends bodies
  simp only [hanswer, hlaunches.ids_eq, List.filterMap_cons, List.filterMap_nil]
  have hdrawn := dealer.ids.snd_next_ne
  by_cases hsame : dealer.ids.next.1 = invocation
  · simp [chunk, hsame, hdrawn]
  · simp [chunk, hsame]

theorem announcesProgress_chunk (caller callee : Session) (route : Route) (request : Call) :
    (dealer.chunk caller callee route request invocation).announcesProgress =
      request.options.flag "receive_progress" := by
  have hempty : Dict.flag ∅ "receive_progress" = false := by
    simp [Dict.flag]
  unfold Invocation.announcesProgress chunk callDetails
  simp [apply_ite (Dict.flag · "receive_progress"), Dict.flag_insert, hempty, Json.isTrue]

/-- Whatever is in flight afterwards was in flight before and has been continued at most, or it has
been opened by the one chunk that is sent. -/
theorem receiveProgress_origin (hanswer : (dealer.perform operation).answer = .ok routed)
    {pending : Pending}
    (hpending : (dealer.perform operation).state.pending[invocation]? = some pending) :
    (∃ old, dealer.pending[invocation]? = some old ∧
      old.receiveProgress = pending.receiveProgress ∧
      ∀ sent ∈ dealer.sends invocation operation, sent.opens = false) ∨
    ∃ body, dealer.sends invocation operation = [{ opens := true, body }] ∧
      body.announcesProgress = pending.receiveProgress := by
  have hserves := serves_of_granted hanswer
  have hkept : (dealer.perform operation).state.ids = dealer.ids ∨
      invocation ≠ dealer.ids.next.1 →
      ∃ old, dealer.pending[invocation]? = some old ∧
        old.receiveProgress = pending.receiveProgress := by
    intro hother
    obtain ⟨old, hold, hsame⟩ := hserves.pending_origin hpending hother
    rw [hsame]
    exact ⟨old, hold, rfl⟩
  rcases hserves.launches_or_ids_eq with ⟨ambient, session, request, route, -, hlaunches⟩ | hids
  · obtain ⟨caller, callee, hsends⟩ := hlaunches.sends_eq hanswer invocation
    by_cases hnew : dealer.ids.next.1 = invocation
    · rw [if_pos hnew] at hsends
      rw [← hnew, hlaunches.pending_eq, Option.some.injEq] at hpending
      refine Or.inr ⟨_, hsends, ?_⟩
      rw [announcesProgress_chunk, ← hpending]
      rfl
    · rw [if_neg hnew] at hsends
      obtain ⟨old, hold, hsame⟩ := hkept (Or.inr (Ne.symm hnew))
      exact Or.inl ⟨old, hold, hsame, by simp [hsends]⟩
  · obtain ⟨old, hold, hsame⟩ := hkept (Or.inl hids)
    exact Or.inl ⟨old, hold, hsame, fun sent => opens_of_ids_eq hids⟩

end Sends

/-- The last chunk that the run sends under one identifier and that opens an invocation. -/
def opening? (invocation : Id) (operations : List Operation) : Option Invocation :=
  (((sentBy invocation {} operations).filter Sent.opens).getLast?).map Sent.body

def latest? (invocation : Id) (operations : List Operation) : Option Invocation :=
  ((sentBy invocation {} operations).getLast?).map Sent.body

/-- Whatever is in flight goes by what the chunk that opened it announced. -/
theorem opening_of_pending (operations : List Operation) {invocation : Id} {pending : Pending}
    (hpending : (Run.final perform {} operations).pending[invocation]? = some pending) :
    ∃ opening, opening? invocation operations = some opening ∧
      opening.announcesProgress = pending.receiveProgress := by
  -- From the end of the run backwards: the last operation opened the invocation, or it was in
  -- flight before and the operation opened none under its identifier.
  induction operations using List.reverseRecOn generalizing pending with
  | nil => simp at hpending
  | append_singleton operations operation ih =>
      rw [Run.final_concat] at hpending
      simp only [opening?, sentBy_concat, List.filter_append] at ih ⊢
      cases hanswer : (perform (Run.final perform {} operations) operation).answer with
      | error error =>
          rw [(refuses_of_refused hanswer).2] at hpending
          rw [sends_of_error hanswer]
          simpa using ih hpending
      | ok routed =>
          rcases receiveProgress_origin hanswer hpending with
            ⟨old, hold, hsame, hcontinues⟩ | ⟨body, hsends, hannounces⟩
          · have hnone : ((Run.final perform {} operations).sends invocation operation).filter
                Sent.opens = [] := by
              rw [List.filter_eq_nil_iff]
              intro sent hsent
              simp [hcontinues sent hsent]
            rw [hnone, List.append_nil, ← hsame]
            exact ih hold
          · rw [hsends]
            exact ⟨body, by simp, hannounces⟩

theorem exists_latest_of_opening {operations : List Operation} {invocation : Id}
    {opening : Invocation} (hopening : opening? invocation operations = some opening) :
    ∃ latest, latest? invocation operations = some latest := by
  obtain ⟨sent, hsent, -⟩ := Option.map_eq_some_iff.mp hopening
  have hmem : sent ∈ sentBy invocation {} operations :=
    List.mem_of_mem_filter (List.mem_of_getLast? hsent)
  have hlast := List.getLast?_eq_some_getLast (List.ne_nil_of_mem hmem)
  exact ⟨_, congrArg (Option.map Sent.body) hlast⟩

/-! ## What becomes of a progressive result -/

section Yields

variable {dealer : Dealer} {invocation : Id} {pending : Pending}

/-- A progressive result goes on to the caller as such, and nothing changes. -/
def RelaysProgress (dealer : Dealer) (invocation : Id) (pending : Pending) : Prop :=
  ∀ (ambient : Ambient) (request : Yield), request.request = invocation →
    request.options.flag "progress" = true →
    let outcome := dealer.receive ambient pending.callee (.yield request)
    outcome.state = dealer ∧
      ∃ result : CallResult,
        outcome.answer = .ok [{ recipient := pending.caller, message := .result result }] ∧
        result.request = pending.request ∧
        result.details = (∅ : Dict).insert "progress" (.boolean true)

/-- A progressive result is taken for the final one, and the invocation is over. -/
def EndsOnProgress (dealer : Dealer) (invocation : Id) (pending : Pending) : Prop :=
  ∀ (ambient : Ambient) (request : Yield), request.request = invocation →
    request.options.flag "progress" = true →
    let outcome := dealer.receive ambient pending.callee (.yield request)
    invocation ∉ outcome.state.pending ∧
      ∃ result : CallResult,
        outcome.answer = .ok [{ recipient := pending.caller, message := .result result }] ∧
        result.request = pending.request ∧ result.details = ∅

/-- A progressive result fares as the callee was told by a chunk. -/
def KeepsWord (dealer : Dealer) (invocation : Id) (pending : Pending) (told : Invocation) :
    Prop :=
  if told.announcesProgress then dealer.RelaysProgress invocation pending
  else dealer.EndsOnProgress invocation pending

theorem Awaited.relaysProgress (hawaited : dealer.Awaited)
    (hpending : dealer.pending[invocation]? = some pending) (hcanceled : pending.canceled = false)
    (hreceive : pending.receiveProgress = true) : dealer.RelaysProgress invocation pending := by
  rintro ambient request rfl hprogress
  obtain ⟨client, hcaller⟩ := isAttached_iff.mp (hawaited.caller_attached _ _ hpending)
  have hyield := hawaited.receive_yield hpending hcanceled hcaller ambient
  simp only [hreceive, hprogress, Bool.and_self, if_true] at hyield
  rw [hyield]
  exact ⟨rfl, _, rfl, rfl, rfl⟩

theorem Awaited.endsOnProgress (hawaited : dealer.Awaited)
    (hpending : dealer.pending[invocation]? = some pending) (hcanceled : pending.canceled = false)
    (hreceive : pending.receiveProgress = false) : dealer.EndsOnProgress invocation pending := by
  rintro ambient request rfl -
  obtain ⟨client, hcaller⟩ := isAttached_iff.mp (hawaited.caller_attached _ _ hpending)
  have hyield := hawaited.receive_yield hpending hcanceled hcaller ambient
  simp only [hreceive, Bool.false_and, Bool.false_eq_true, if_false] at hyield
  rw [hyield]
  refine ⟨?_, _, rfl, rfl, rfl⟩
  simp [pending_dropPending]

theorem RelaysProgress.not_endsOnProgress (hrelays : dealer.RelaysProgress invocation pending) :
    ¬ dealer.EndsOnProgress invocation pending := by
  intro hends
  let request : Yield := {
    request := invocation
    options := (∅ : Dict).insert "progress" (.boolean true) }
  let ambient : Ambient := { drawnId := 0, drawnIndex := 0, now := "" }
  have hprogress : request.options.flag "progress" = true := by
    simp [request, Dict.flag_insert, Json.isTrue]
  obtain ⟨-, relayed, hrelayed, -, hdetails⟩ := hrelays ambient request rfl hprogress
  obtain ⟨-, final, hfinal, -, hnone⟩ := hends ambient request rfl hprogress
  rw [hrelayed] at hfinal
  simp only [Except.ok.injEq, List.cons.injEq, Routed.mk.injEq, Message.result.injEq, true_and,
    and_true] at hfinal
  rw [← hfinal, hdetails] at hnone
  have hflag := congrArg (Dict.flag · "progress") hnone
  simp [Json.isTrue, Dict.flag] at hflag

theorem Awaited.relaysProgress_iff (hawaited : dealer.Awaited)
    (hpending : dealer.pending[invocation]? = some pending)
    (hcanceled : pending.canceled = false) :
    (dealer.RelaysProgress invocation pending ↔ pending.receiveProgress = true) ∧
      (dealer.EndsOnProgress invocation pending ↔ pending.receiveProgress = false) := by
  cases hreceive : pending.receiveProgress with
  | true =>
      have hrelays := hawaited.relaysProgress hpending hcanceled hreceive
      simp [hrelays, hrelays.not_endsOnProgress]
  | false =>
      have hends := hawaited.endsOnProgress hpending hcanceled hreceive
      have hrelays : ¬ dealer.RelaysProgress invocation pending :=
        fun hrelays => hrelays.not_endsOnProgress hends
      simp [hends, hrelays]

end Yields

/-- Whatever the chunks of a call ask for, a progressive result of its callee is relayed as such if
the opening chunk announced that, and is taken for the final one otherwise.  So the callee can rely
on the latest chunk exactly if that one announces the same as the opening one. -/
theorem progress_of_run (operations : List Operation) {invocation : Id} {pending : Pending}
    (hpending : (Run.final perform {} operations).pending[invocation]? = some pending)
    (hcanceled : pending.canceled = false) :
    let dealer := Run.final perform {} operations
    ∃ opening latest, opening? invocation operations = some opening ∧
      latest? invocation operations = some latest ∧
      (dealer.RelaysProgress invocation pending ↔ opening.announcesProgress = true) ∧
      (dealer.EndsOnProgress invocation pending ↔ opening.announcesProgress = false) ∧
      (dealer.KeepsWord invocation pending latest ↔
        latest.announcesProgress = opening.announcesProgress) := by
  intro dealer
  obtain ⟨opening, hopening, hannounces⟩ := opening_of_pending operations hpending
  obtain ⟨latest, hlatest⟩ := exists_latest_of_opening hopening
  obtain ⟨hrelays, hends⟩ := (awaited_final operations).relaysProgress_iff hpending hcanceled
  rw [← hannounces] at hrelays hends
  refine ⟨opening, latest, hopening, hlatest, hrelays, hends, ?_⟩
  unfold KeepsWord
  cases latest.announcesProgress with
  | true =>
      rw [if_pos rfl, hrelays]
      exact eq_comm
  | false =>
      rw [if_neg Bool.false_ne_true, hends]
      exact eq_comm

section MixedChunks

def someMoment : Ambient where
  drawnId := 7
  drawnIndex := 0
  now := ""

def progressiveOptions (receiveProgress : Bool) : Dict :=
  (∅ : Dict)
    |>.insert "progress" (.boolean true)
    |>.insert "receive_progress" (.boolean receiveProgress)

/-- A call of two chunks, each of which asks for progressive results or does not. -/
def mixedChunks (first second : Bool) : List Operation :=
  let member (id : Id) : Session :=
    { id, realm := "realm1", authid := "", authrole := "", staticSerializer := false }
  let chunkWith (receiveProgress : Bool) : Operation :=
    .receive someMoment 2 (.call {
      request := 1
      options := progressiveOptions receiveProgress
      procedure := "com.sum" })
  [.attach (member 1), .attach (member 2),
    .receive someMoment 1 (.register { request := 1, options := ∅, procedure := "com.sum" }),
    chunkWith first, chunkWith second]

def mixedCall (receiveProgress : Bool) : Pending where
  callee := 1
  registration := 7
  policy := .exact
  request := 1
  caller := 2
  receiveProgress := receiveProgress
  progress := true

theorem progress_mixedChunks :
    let dealer := Run.final perform {} (mixedChunks true true)
    ∃ opening latest, dealer.pending[1]? = some (mixedCall true) ∧
      opening? 1 (mixedChunks true true) = some opening ∧
      latest? 1 (mixedChunks true true) = some latest ∧
      opening.announcesProgress = true ∧ latest.announcesProgress = true ∧
      dealer.RelaysProgress 1 (mixedCall true) ∧ dealer.KeepsWord 1 (mixedCall true) latest := by
  intro dealer
  have hpending : dealer.pending[1]? = some (mixedCall true) := by decide +kernel
  have hannounced : (opening? 1 (mixedChunks true true)).map Invocation.announcesProgress =
        some true ∧
      (latest? 1 (mixedChunks true true)).map Invocation.announcesProgress = some true := by
    decide +kernel
  obtain ⟨opening, latest, hopening, hlatest, hrelays, -, hkeeps⟩ :=
    progress_of_run (mixedChunks true true) hpending rfl
  rw [hopening, hlatest] at hannounced
  have hfirst : opening.announcesProgress = true := Option.some.inj hannounced.1
  have hlast : latest.announcesProgress = true := Option.some.inj hannounced.2
  exact ⟨opening, latest, hpending, hopening, hlatest, hfirst, hlast, hrelays.mpr hfirst,
    hkeeps.mpr (hlast.trans hfirst.symm)⟩

/-- The second chunk announces progressive results, and the first of these ends the call. -/
theorem not_keepsWord_mixedChunks :
    let dealer := Run.final perform {} (mixedChunks false true)
    let request : Yield := { request := 1, options := progressiveOptions false }
    let outcome := dealer.receive someMoment 1 (.yield request)
    dealer.pending[1]? = some (mixedCall false) ∧
      (latest? 1 (mixedChunks false true)).map Invocation.announcesProgress = some true ∧
      outcome.answer = .ok [{ recipient := 2, message := .result { request := 1, details := ∅ } }] ∧
      outcome.state.pending[1]? = none ∧
      ∀ latest, latest? 1 (mixedChunks false true) = some latest →
        ¬ dealer.KeepsWord 1 (mixedCall false) latest := by
  intro dealer request outcome
  have hpending : dealer.pending[1]? = some (mixedCall false) := by decide +kernel
  have hlatest : (latest? 1 (mixedChunks false true)).map Invocation.announcesProgress =
      some true := by
    decide +kernel
  have hanswer : outcome.answer =
      .ok [{ recipient := 2, message := .result { request := 1, details := ∅ } }] := by
    decide +kernel
  refine ⟨hpending, hlatest, hanswer, by decide +kernel, ?_⟩
  intro latest hsome hkeeps
  rw [hsome] at hlatest
  rw [KeepsWord, if_pos (Option.some.inj hlatest)] at hkeeps
  obtain ⟨-, result, hrelayed, -, hdetails⟩ := hkeeps someMoment request rfl (by decide +kernel)
  have hsame := hanswer.symm.trans hrelayed
  simp only [Except.ok.injEq, List.cons.injEq, Routed.mk.injEq, Message.result.injEq,
    and_true] at hsame
  rw [← hsame.2] at hdetails
  have hflag := congrArg (Dict.flag · "progress") hdetails
  simp [Json.isTrue, Dict.flag] at hflag

end MixedChunks

end Dealer

end Wamp
