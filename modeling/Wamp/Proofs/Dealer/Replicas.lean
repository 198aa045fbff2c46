import Wamp.Proofs.Dealer.Consumers
import Wamp.Proofs.Dealer.Registrations
import Wamp.Proofs.Refusals

/-!
# Replicas of the registrations

Whoever hears every announcement can keep a replica of the registrations of a dealer.  A replica is
strict: it follows an announcement only if it makes sense where it stands.  Even so it follows all
that a dealer ever announces, and agrees with the dealer after every operation.
-/

namespace Wamp

/-- The registrations as announcements tell them: without the cursors, which move with the calls.
A registration whose last callee has just been taken away has to be deleted next. -/
structure Replica where
  registrations : Std.ExtTreeMap Id Registration := ∅
  /-- The session that left a registration without callees, and the registration. -/
  vacated : Option (Id × Id) := none
  deriving DecidableEq

namespace Replica

/-- What becomes of a replica when an announcement is heard; there is none if the announcement
makes no sense.  A new registration starts without callees, who are announced on their own. -/
def follow? (replica : Replica) : Announcement → Option Replica
  | .registrationCreated registration =>
    if replica.vacated = none ∧ registration.id ∉ replica.registrations then
      some { registrations :=
        replica.registrations.insert registration.id { registration with callees := [] } }
    else
      none
  | .calleeAdded session registration =>
    match replica.registrations[registration]? with
    | none => none
    | some found =>
      if replica.vacated = none ∧ session ∉ found.callees then
        some { registrations := replica.registrations.insert registration (found.join session) }
      else
        none
  | .calleeRemoved session registration =>
    match replica.registrations[registration]? with
    | none => none
    | some found =>
      if replica.vacated = none ∧ session ∈ found.callees then
        let callees := found.callees.erase session
        some {
          registrations := replica.registrations.insert registration { found with callees }
          vacated := if callees = [] then some (session, registration) else none }
      else
        none
  | .registrationDeleted session registration =>
    if replica.vacated = some (session, registration) then
      some { registrations := replica.registrations.erase registration }
    else
      none

end Replica

namespace Registration

/-- A registration as it is announced. -/
def shown (registration : Registration) : Registration :=
  { registration with cursor := 0 }

theorem shown_commit (registration : Registration) (position : Nat) :
    (registration.commit position).shown = registration.shown := by
  obtain ⟨cursor, hcommit⟩ := registration.commit_eq position
  rw [hcommit]
  rfl

theorem shown_leave (registration : Registration) (session : Id) :
    (registration.leave session).shown =
      { registration.shown with callees := registration.callees.erase session } := by
  obtain ⟨cursor, hleave⟩ := registration.leave_eq session
  rw [hleave]
  rfl

end Registration

namespace Dealer

/-- The registrations of a table as they are announced. -/
def shown (registrations : Std.ExtTreeMap Id Registration) : Std.ExtTreeMap Id Registration :=
  registrations.map fun _ found => found.shown

theorem getElem?_shown (registrations : Std.ExtTreeMap Id Registration) (id : Id) :
    (shown registrations)[id]? = registrations[id]?.map Registration.shown := by
  unfold shown
  rw [Std.ExtTreeMap.getElem?_map]

theorem shown_insert (registrations : Std.ExtTreeMap Id Registration) (id : Id)
    (registration : Registration) :
    shown (registrations.insert id registration) =
      (shown registrations).insert id registration.shown := by
  refine Std.ExtTreeMap.ext_getElem? fun other => ?_
  simp only [getElem?_shown, Std.ExtTreeMap.getElem?_insert]
  split <;> rfl

theorem shown_erase (registrations : Std.ExtTreeMap Id Registration) (id : Id) :
    shown (registrations.erase id) = (shown registrations).erase id := by
  refine Std.ExtTreeMap.ext_getElem? fun other => ?_
  simp only [getElem?_shown, Std.ExtTreeMap.getElem?_erase]
  split <;> rfl

/-- What is written over an entry in which only the cursor differs shows the same. -/
theorem shown_insert_of_eq {registrations : Std.ExtTreeMap Id Registration} {id : Id}
    {found registration : Registration} (hfound : registrations[id]? = some found)
    (hsame : registration.shown = found.shown) :
    shown (registrations.insert id registration) = shown registrations := by
  refine Std.ExtTreeMap.ext_getElem? fun other => ?_
  simp only [getElem?_shown, Std.ExtTreeMap.getElem?_insert]
  split
  next hother =>
    rw [← Std.LawfulEqCmp.eq_of_compare hother, hfound, Option.map_some, Option.map_some, hsame]
  next => rfl

/-- The replica that agrees with a dealer. -/
def replica (dealer : Dealer) : Replica where
  registrations := shown dealer.registrations

variable {dealer : Dealer}

theorem announcements_append (first second : List Note) :
    announcements (first ++ second) = announcements first ++ announcements second :=
  List.filterMap_append

/-! ## Withdrawn callees -/

theorem follow_calleeRemoved {session id : Id} {found : Registration}
    (hfound : dealer.registrations[id]? = some found) (hcallee : session ∈ found.callees) :
    dealer.replica.follow? (.calleeRemoved session id) =
      some {
        registrations := shown (dealer.registrations.insert id (found.leave session))
        vacated := if (found.leave session).callees = [] then some (session, id) else none } := by
  have hshown : dealer.replica.registrations[id]? = some found.shown := by
    simp only [replica, getElem?_shown, hfound, Option.map_some]
  have hpresent : dealer.replica.vacated = none ∧ session ∈ found.shown.callees :=
    ⟨rfl, hcallee⟩
  simp only [Replica.follow?, hshown, if_pos hpresent, shown_insert, found.shown_leave,
    found.callees_leave]
  rfl

theorem follow_removeCallee (dealer : Dealer) (session id : Id) :
    (announcements (dealer.removeCallee session id).2).foldlM Replica.follow? dealer.replica =
      some (dealer.removeCallee session id).1.replica := by
  unfold removeCallee
  cases hfound : dealer.registrations[id]? with
  | none => rfl
  | some found =>
      simp only
      split
      next hcallee =>
        have hremoved := follow_calleeRemoved hfound (List.contains_iff_mem.mp hcallee)
        split
        next hleft =>
          have hannounced : announcements
              ([.calleeRemoved session id found.procedure,
                .announced (.calleeRemoved session id)] ++
                [.registrationDeleted id found.procedure,
                  .announced (.registrationDeleted session id)]) =
              [.calleeRemoved session id, .registrationDeleted session id] := rfl
          rw [hannounced, List.foldlM_cons, hremoved, if_pos (List.isEmpty_iff.mp hleft)]
          simp [Replica.follow?, replica, shown_insert, shown_erase, Table.erase_insert_self]
        next hleft =>
          have hannounced : announcements
              [.calleeRemoved session id found.procedure,
                .announced (.calleeRemoved session id)] = [.calleeRemoved session id] := rfl
          have hserved : (found.leave session).callees ≠ [] := by simpa using hleft
          rw [hannounced, List.foldlM_cons, hremoved, if_neg hserved]
          rfl
      next => rfl

theorem follow_removeCalleeFromAll (dealer : Dealer) (session : Id) (ids : List Id) :
    (announcements (dealer.removeCalleeFromAll session ids).2).foldlM Replica.follow?
        dealer.replica =
      some (dealer.removeCalleeFromAll session ids).1.replica := by
  induction ids generalizing dealer with
  | nil => rfl
  | cons id rest ih =>
      simp only [removeCalleeFromAll, announcements_append]
      rw [List.foldlM_append, dealer.follow_removeCallee session id]
      exact ih (dealer.removeCallee session id).1

theorem follow_unregister (dealer : Dealer) (session : Id) (request : Unregister) :
    (announcements (dealer.unregister session request).notes).foldlM Replica.follow?
        dealer.replica =
      some (dealer.unregister session request).state.replica := by
  unfold unregister
  cases dealer.held[session]? with
  | none => rfl
  | some ids =>
      let returned :=
        { dealer with held := dealer.held.insert session (ids.erase request.registration) }
      simp only
      split
      next => exact returned.follow_removeCallee session request.registration
      next => rfl

theorem follow_removeSession (dealer : Dealer) (session : Id) :
    (announcements (dealer.removeSession session).notes).foldlM Replica.follow? dealer.replica =
      some (dealer.removeSession session).state.replica := by
  unfold removeSession
  split
  next hattached =>
    let detached :=
      { dealer with
        sessions := dealer.sessions.erase session
        held := dealer.held.erase session }
    let ids := (dealer.held.getD session ∅).toList
    have habandoned : ∀ abandoned : List Id,
        announcements (abandoned.map (Note.pendingInvocationDropped session)) = [] := by
      intro abandoned
      induction abandoned with
      | nil => rfl
      | cons invocation rest ih => exact ih
    have hwithdrawn := detached.follow_removeCalleeFromAll session ids
    obtain ⟨left, invocationOf, hdropped⟩ := foldl_dropPending_eq
      (detached.removeCalleeFromAll session ids).1
      ((detached.removeCalleeFromAll session ids).1.pendingOf session)
    simp only [Outcome.notes_granted, Outcome.state_granted, announcements_append, habandoned,
      List.append_nil]
    rw [hdropped]
    exact hwithdrawn
  next => rfl

/-! ## New callees -/

/-- A callee that joins a registration, as the announcement tells it. -/
theorem follow_calleeAdded (replica : Replica) (session : Id) {id : Id} {found : Registration}
    (hready : replica.vacated = none) (hfound : replica.registrations[id]? = some found)
    (hnew : session ∉ found.callees) :
    replica.follow? (.calleeAdded session id) =
      some { registrations := replica.registrations.insert id (found.join session) } := by
  simp only [Replica.follow?, hfound, if_pos (And.intro hready hnew)]

theorem follow_joined (hcatalogued : dealer.Catalogued) {session id : Id} {found : Registration}
    (hfound : dealer.registrations[id]? = some found) (hnew : session ∉ found.callees)
    (request : Register) :
    (announcements (dealer.enroll session (found.join session) request).notes).foldlM
        Replica.follow? dealer.replica =
      some (dealer.enroll session (found.join session) request).state.replica := by
  obtain rfl : found.id = id := hcatalogued.id_eq id found hfound
  have hshown : dealer.replica.registrations[found.id]? = some found.shown := by
    simp only [replica, getElem?_shown, hfound, Option.map_some]
  have hadded := follow_calleeAdded dealer.replica session rfl hshown hnew
  have hannounced : announcements (dealer.enroll session (found.join session) request).notes =
      [.calleeAdded session found.id] := rfl
  rw [hannounced, List.foldlM_cons, hadded]
  simp only [enroll, Outcome.state_granted, replica, shown_insert]
  rfl

theorem follow_created (dealer : Dealer) (registration : Registration) {session : Id}
    (hfresh : registration.id ∉ dealer.registrations) (hcallees : registration.callees = [session])
    (hcursor : registration.cursor = 0) :
    [Announcement.registrationCreated registration,
        .calleeAdded session registration.id].foldlM Replica.follow? dealer.replica =
      some { registrations := shown (dealer.registrations.insert registration.id registration) }
    := by
  have hmissing : dealer.replica.vacated = none ∧
      registration.id ∉ dealer.replica.registrations := by
    refine ⟨rfl, ?_⟩
    rw [Table.mem_iff_exists]
    simp [replica, getElem?_shown, Std.ExtTreeMap.getElem?_eq_none hfresh]
  have hjoined : { registration with callees := [] }.join session = registration.shown := by
    simp [Registration.shown, Registration.join, hcallees, hcursor]
  have hadded := follow_calleeAdded
    { registrations := dealer.replica.registrations.insert registration.id
        { registration with callees := [] } }
    session rfl Std.ExtTreeMap.getElem?_insert_self (by simp)
  rw [List.foldlM_cons, Replica.follow?, if_pos hmissing, Option.bind_eq_bind, Option.bind_some,
    List.foldlM_cons, hadded, hjoined]
  simp [replica, shown_insert, Table.insert_insert_self]

theorem Catalogued.follow_register (hcatalogued : dealer.Catalogued) (ambient : Ambient)
    (session : Id) (request : Register) :
    (announcements (dealer.register ambient session request).notes).foldlM Replica.follow?
        dealer.replica =
      some (dealer.register ambient session request).state.replica := by
  unfold register
  split
  next =>
    simp only
    cases dealer.directory.get? request.procedure with
    | none =>
        exact dealer.follow_created (dealer.created ambient session request)
          (dealer.freshRegistrationId_not_mem ambient) rfl rfl
    | some entry =>
        simp only
        cases hfound : dealer.registrations[entry.value]? with
        | none => rfl
        | some found =>
            simp only
            split
            next hadmits =>
              rw [Bool.and_eq_true] at hadmits
              exact follow_joined hcatalogued hfound (by simpa using hadmits.2) request
            next => rfl
  next => rfl

/-! ## Operations that announce nothing -/

theorem announcements_handOver (dealer : Dealer) (session : Id) (caller : Session)
    (route : Route) (request : Call) (invocation : Id) :
    announcements (dealer.handOver session caller route request invocation).notes = [] := by
  unfold handOver
  simp only
  split <;> rfl

theorem announcements_callFresh (dealer : Dealer) (ambient : Ambient) (session : Id)
    (caller : Session) (request : Call) :
    announcements (dealer.callFresh ambient session caller request).notes = [] := by
  unfold callFresh
  split
  next => rfl
  next =>
    split
    next => rfl
    next =>
      split
      next => rfl
      next =>
        split
        next => rfl
        next =>
          split
          next => exact announcements_handOver ..
          next => rfl

theorem announcements_call (dealer : Dealer) (ambient : Ambient) (session : Id)
    (request : Call) : announcements (dealer.call ambient session request).notes = [] := by
  unfold call
  split
  next => rfl
  next =>
    split
    next => exact announcements_callFresh ..
    next =>
      split
      next => exact announcements_handOver ..
      next =>
        split
        next => exact announcements_handOver ..
        next => rfl

theorem announcements_yield (dealer : Dealer) (session : Id) (request : Yield) :
    announcements (dealer.yield session request).notes = [] := by
  unfold yield
  split
  next => rfl
  next =>
    split
    next => rfl
    next => split <;> rfl

theorem announcements_invocationError (dealer : Dealer) (session : Id) (reply : ErrorReply) :
    announcements (dealer.invocationError session reply).notes = [] := by
  unfold invocationError
  split
  next =>
    split
    next => rfl
    next => split <;> rfl
  next => rfl

theorem announcements_cancel (dealer : Dealer) (session : Id) (request : Cancel) :
    announcements (dealer.cancel session request).notes = [] := by
  unfold cancel
  split
  next => rfl
  next mode hmode =>
    simp only
    split
    next => rfl
    next =>
      split
      next => rfl
      next =>
        split
        next => cases mode <;> rfl
        next => rfl

/-- Only what sessions register, give back or leave behind is announced. -/
theorem announcements_receive (dealer : Dealer) (ambient : Ambient) (session : Id)
    {message : Message} (hkind : message.kind ≠ .register ∧ message.kind ≠ .unregister) :
    announcements (dealer.receive ambient session message).notes = [] := by
  cases message with
  | register | unregister => simp [Message.kind] at hkind
  | call request => exact dealer.announcements_call ambient session request
  | yield request => exact dealer.announcements_yield session request
  | error reply => exact dealer.announcements_invocationError session reply
  | cancel request => exact dealer.announcements_cancel session request
  | _ => rfl

/-- And calls and replies do not change what was registered, but for the cursors. -/
theorem replica_receive (dealer : Dealer) (ambient : Ambient) (session : Id)
    {message : Message} (hkind : message.kind ≠ .register ∧ message.kind ≠ .unregister) :
    (dealer.receive ambient session message).state.replica = dealer.replica := by
  have hkept : (dealer.perform (.receive ambient session message)).state.replica =
      dealer.replica := by
    cases hanswer : (dealer.perform (.receive ambient session message)).answer with
    | error error => rw [(refuses_of_refused hanswer).2]
    | ok routed =>
        have hserves := serves_of_granted hanswer
        generalize (dealer.perform (.receive ambient session message)).state = state at hserves
        cases hserves with
        | registered | joined | rejected | unregistered => simp [Message.kind] at hkind
        | dispatched _ _ request caller callee entry found position route _ _ _ hfound =>
            rw [launch_eq]
            simp only [replica, committed, shown_insert_of_eq hfound (found.shown_commit position)]
        | closed =>
            rw [launch_eq]
            rfl
        | killed _ _ request | finished _ _ request =>
            obtain ⟨_, _, hdropped⟩ := dealer.dropPending_eq request.request
            rw [hdropped]
            rfl
        | failed _ _ reply =>
            obtain ⟨_, _, hdropped⟩ := dealer.dropPending_eq reply.request
            rw [hdropped]
            rfl
        | skipped _ _ _ invocation | aborted _ _ _ invocation =>
            obtain ⟨_, _, hdropped⟩ := dealer.dropPending_eq invocation
            rw [hdropped]
            rfl
        | _ => rfl
  exact hkept

/-- A replica that agrees with the dealer follows what an operation announces, and then agrees with
the dealer again. -/
theorem Catalogued.follow_perform (hcatalogued : dealer.Catalogued) (operation : Operation) :
    (announcements (dealer.perform operation).notes).foldlM Replica.follow? dealer.replica =
      some (dealer.perform operation).state.replica := by
  cases operation with
  | attach session =>
      simp only [perform, addSession]
      split <;> rfl
  | detach session => exact dealer.follow_removeSession session
  | receive ambient session message =>
      by_cases hkind : message.kind ≠ .register ∧ message.kind ≠ .unregister
      · simp only [perform, dealer.announcements_receive ambient session hkind,
          dealer.replica_receive ambient session hkind]
        rfl
      · cases message with
        | register request => exact hcatalogued.follow_register ambient session request
        | unregister request => exact dealer.follow_unregister session request
        | _ => simp [Message.kind] at hkind
  | disclose on => rfl

/-- A refusal is not announced, and neither is an answer with an error, such as that a procedure is
taken. -/
theorem announcements_perform_of_error (dealer : Dealer) (operation : Operation) :
    (∀ error, (dealer.perform operation).answer = .error error →
        announcements (dealer.perform operation).notes = []) ∧
      ∀ routed recipient reply, (dealer.perform operation).answer = .ok routed →
        { recipient, message := .error reply } ∈ routed →
          announcements (dealer.perform operation).notes = [] := by
  refine ⟨fun error hanswer => ?_, fun routed recipient reply hanswer hmem => ?_⟩
  · rw [dealer.leavesNoTrace_perform operation error hanswer]
    rfl
  · have hserves := serves_of_granted hanswer
    generalize (dealer.perform operation).state = state at hserves
    cases operation with
    | attach session | detach session | disclose on =>
        cases hserves
        simp at hmem
    | receive ambient session message =>
        by_cases hkind : message.kind ≠ .register ∧ message.kind ≠ .unregister
        · exact dealer.announcements_receive ambient session hkind
        · cases message with
          | register request =>
              have hregister := register_of_error hanswer hmem
              have hnotes : (dealer.perform (.receive ambient session (.register request))).notes =
                  (dealer.register ambient session request).notes := rfl
              rw [hnotes, hregister]
              rfl
          | unregister request =>
              cases hserves
              simp at hmem
          | _ => simp [Message.kind] at hkind

end Dealer

namespace AnnouncingDealer

variable {announcing : AnnouncingDealer} {consumer : Nat} {feed : Feed}

theorem follow_final (htables : announcing.dealer.Tables) (operations : List Operation) :
    (emitted announcing operations).foldlM Replica.follow? announcing.dealer.replica =
      some (Run.final perform announcing operations).dealer.replica := by
  induction operations generalizing announcing with
  | nil => rfl
  | cons operation rest ih =>
      have hfirst : (announcing.emits operation).foldlM Replica.follow?
          announcing.dealer.replica = some (announcing.perform operation).state.dealer.replica := by
        rw [dealer_perform]
        cases operation with
        | serve operation => exact htables.follow_perform operation
        | enable | take consumer | drop consumer => rfl
      have hnext : (announcing.perform operation).state.dealer.Tables := by
        rw [dealer_perform]
        cases operation with
        | serve operation => exact htables.perform operation
        | enable | take consumer | drop consumer => exact htables
      rw [emitted_cons, List.foldlM_append, hfirst]
      exact ih hnext

/-! ## Consumers that miss nothing -/

/-- What a run writes into the journal. -/
def journal (announcing : AnnouncingDealer) (operations : List Operation) : List Journal.Entry :=
  Run.collected perform (fun announcing operation => (announcing.perform operation).notes)
    announcing operations

theorem mem_record_cons {board : Board} {note : Dealer.Note} {rest : List Dealer.Note}
    {entry : Journal.Entry}
    (hmem : entry ∈ (record (note.announcement?.elim board fun announcement =>
      (board.post announcement).1) rest).2) :
    entry ∈ (record board (note :: rest)).2 := by
  cases note <;> exact List.mem_append_right _ hmem

/-- A dropped announcement leaves its reason in the journal. -/
theorem entry_mem_record {board : Board} {announcement : Announcement} {reason : DropReason}
    (hdropped : (board.post announcement).2 = some reason) (rest : List Dealer.Note) :
    reason.entry ∈ (record board (.announced announcement :: rest)).2 := by
  simp [record, hdropped]

/-- As long as no full queue is reported, everything that is announced is queued for the consumer
that was enabled last. -/
theorem queued_record {board : Board} (hfeed : board.feeds[consumer]? = some feed)
    (hnewest : consumer + 1 = board.feeds.length) (hlistening : feed.listening = true)
    {notes : List Dealer.Note} (hroom : DropReason.queueFull.entry ∉ (record board notes).2) :
    (record board notes).1.feeds[consumer]? =
      some { feed with queued := feed.queued ++ Dealer.announcements notes } := by
  induction notes generalizing board feed with
  | nil => simpa [record, Dealer.announcements] using hfeed
  | cons note rest ih =>
      have hrest := fun hmem => hroom (mem_record_cons hmem)
      rw [record_cons]
      cases hnote : note.announcement? with
      | none =>
          rw [hnote] at hrest
          rw [Dealer.announcements, List.filterMap_cons_none hnote]
          exact ih hfeed hnewest hlistening hrest
      | some announcement =>
          obtain rfl : note = .announced announcement := by
            cases note <;> simp_all [Dealer.Note.announcement?]
          have hfree : feed.queued.length < feed.capacity := by
            by_contra hfull
            refine hroom (entry_mem_record ?_ rest)
            rw [Board.dropped_post hfeed hnewest,
              Feed.offer_of_full hlistening (Nat.le_of_not_lt hfull)]
          have hposted := Board.feeds_post hfeed announcement
          simp only [Board.offers, if_pos hnewest, List.map_cons, List.map_nil, List.foldl_cons,
            List.foldl_nil, Feed.undergo, Feed.offer_of_room hlistening hfree] at hposted
          have hlater := ih hposted (hnewest.trans (board.length_feeds_post announcement).symm)
            hlistening hrest
          rw [Option.elim_some, hlater]
          simp [Dealer.announcements, Dealer.Note.announcement?]

theorem heard_perform (hfeed : announcing.board.feeds[consumer]? = some feed)
    (hnewest : consumer + 1 = announcing.board.feeds.length) (hlistening : feed.listening = true)
    {operation : Operation} (hstays : operation ≠ .enable) (hopen : operation ≠ .drop consumer)
    (hroom : DropReason.queueFull.entry ∉ (announcing.perform operation).notes) :
    ∃ next, (announcing.perform operation).state.board.feeds[consumer]? = some next ∧
      next.listening = true ∧
      announcing.obtains consumer operation ++ next.queued =
        feed.queued ++ announcing.emits operation := by
  cases operation with
  | serve operation => exact ⟨_, queued_record hfeed hnewest hlistening hroom, hlistening, rfl⟩
  | enable => contradiction
  | take asking =>
      refine ⟨_, feeds_perform hfeed (.take asking), ?_⟩
      rw [obtains_eq hfeed, incidents]
      split
      next =>
        refine ⟨hlistening, ?_⟩
        cases hqueued : feed.queued <;>
          simp [Feed.handed, Feed.hands, Feed.undergo, emits, hqueued]
      next => exact ⟨hlistening, by simp [Feed.handed, emits]⟩
  | drop leaving =>
      have hother : leaving ≠ consumer := by simpa using hopen
      refine ⟨feed, ?_, hlistening, by simp [obtains, emits]⟩
      rw [feeds_perform hfeed, incidents, if_neg hother]
      rfl

/-- A consumer that is not replaced, does not leave and never finds its queue full gets everything
that is emitted, or finds it in its queue. -/
theorem heard_final (hfeed : announcing.board.feeds[consumer]? = some feed)
    (hnewest : consumer + 1 = announcing.board.feeds.length) (hlistening : feed.listening = true)
    {operations : List Operation} (hstays : .enable ∉ operations)
    (hopen : .drop consumer ∉ operations)
    (hroom : DropReason.queueFull.entry ∉ journal announcing operations) :
    ∃ last, (Run.final perform announcing operations).board.feeds[consumer]? = some last ∧
      obtained consumer announcing operations ++ last.queued =
        feed.queued ++ emitted announcing operations := by
  induction operations generalizing announcing feed with
  | nil => exact ⟨feed, hfeed, by simp [obtained, emitted, Run.collected]⟩
  | cons operation rest ih =>
      have hother : operation ≠ .enable := fun hsame => hstays (hsame ▸ List.mem_cons_self)
      obtain ⟨next, hnext, hlistens, hshared⟩ := heard_perform hfeed hnewest hlistening hother
        (fun hsame => hopen (hsame ▸ List.mem_cons_self))
        (fun hmem => hroom (List.mem_append_left _ hmem))
      obtain ⟨last, hlast, hrest⟩ := ih hnext
        (hnewest.trans (length_feeds_perform hother).symm) hlistens
        (fun hmem => hstays (List.mem_cons_of_mem _ hmem))
        (fun hmem => hopen (List.mem_cons_of_mem _ hmem))
        (fun hmem => hroom (List.mem_append_right _ hmem))
      refine ⟨last, hlast, ?_⟩
      rw [obtained_cons, emitted_cons, List.append_assoc, hrest, ← List.append_assoc, hshared,
        List.append_assoc]

/-- The announcements tell how the registrations change, whoever listens.  From any point of a run
on, a replica that starts with the registrations of that point follows everything that is emitted
later, and agrees with the registrations at the end.  A consumer that is enabled at that point hears
it all if its queue is never full, unless it leaves or is replaced.  And an operation that is
refused, or answered with an error, emits nothing. -/
theorem announcements_replayed_of_run :
    (∀ (board : Board) (earlier later : List Operation),
      let start := Run.final perform { board } earlier
      let enabled := (start.perform .enable).state
      let last := Run.final perform enabled later
      let consumer := start.board.feeds.length
      (emitted enabled later).foldlM Replica.follow? start.dealer.replica =
          some last.dealer.replica ∧
        (board.queueSize ≤ Board.maxCapacity → .enable ∉ later → .drop consumer ∉ later →
          DropReason.queueFull.entry ∉ journal enabled later →
            ∃ feed, last.board.feeds[consumer]? = some feed ∧
              obtained consumer enabled later ++ feed.queued = emitted enabled later)) ∧
      ∀ (announcing : AnnouncingDealer) (operation : Operation),
        (∀ error, (announcing.perform operation).answer = .error error →
            announcing.emits operation = []) ∧
          ∀ routed recipient reply, (announcing.perform operation).answer = .ok routed →
            { recipient, message := .error reply } ∈ routed →
              announcing.emits operation = [] := by
  refine ⟨fun board earlier later => ?_, fun announcing operation => ?_⟩
  · intro start enabled last consumer
    have hdealer : enabled.dealer = start.dealer := start.dealer_perform .enable
    have htables : enabled.dealer.Tables := hdealer ▸ tables_final board earlier
    refine ⟨hdealer ▸ follow_final htables later, fun hsize hstays hopen hroom => ?_⟩
    obtain ⟨hfeed, hnewest⟩ := feeds_enabled hsize earlier
    exact heard_final hfeed hnewest rfl hstays hopen hroom
  · cases operation with
    | serve operation => exact announcing.dealer.announcements_perform_of_error operation
    | enable | take consumer | drop consumer => exact ⟨fun _ _ => rfl, fun _ _ _ _ _ => rfl⟩

/-- Sessions 1 and 2 are there, and session 1 serves a procedure that others may join. -/
def opening : List Operation :=
  let member (id : Id) : Session :=
    { id, realm := "realm1", authid := "", authrole := "", staticSerializer := false }
  let ambient : Ambient := { drawnId := 7, drawnIndex := 0, now := "" }
  let shared : Dict := (∅ : Dict).insert "invoke" (.text "roundrobin")
  [.serve (.attach (member 1)), .serve (.attach (member 2)),
    .serve (.receive ambient 1
      (.register { request := 1, options := shared, procedure := "com.sum" }))]

/-- Session 2 joins and calls the procedure, session 1 leaves, and session 2 gives the procedure
back and registers another one.  The consumer asks once on the way. -/
def turnover : List Operation :=
  let ambient : Ambient := { drawnId := 8, drawnIndex := 0, now := "" }
  let shared : Dict := (∅ : Dict).insert "invoke" (.text "roundrobin")
  [.serve (.receive ambient 2
      (.register { request := 1, options := shared, procedure := "com.sum" })),
    .serve (.receive ambient 2 (.call { request := 2, options := ∅, procedure := "com.sum" })),
    .serve (.detach 1), .take 0,
    .serve (.receive ambient 2 (.unregister { request := 3, registration := 7 })),
    .serve (.receive ambient 2
      (.register { request := 4, options := ∅, procedure := "com.product" }))]

theorem announcements_replayed_turnover :
    let start := Run.final perform { board := { queueSize := 16 } } opening
    let enabled := (start.perform .enable).state
    let last := Run.final perform enabled turnover
    let consumer := start.board.feeds.length
    let created : Registration :=
      { id := 8, procedure := "com.product", policy := .exact, invoke := .single, callees := [2],
        created := "" }
    emitted enabled turnover =
        [.calleeAdded 2 7, .calleeRemoved 1 7, .calleeRemoved 2 7, .registrationDeleted 2 7,
          .registrationCreated created, .calleeAdded 2 8] ∧
      (emitted enabled turnover).foldlM Replica.follow? start.dealer.replica =
        some last.dealer.replica ∧
      obtained consumer enabled turnover = [.calleeAdded 2 7] ∧
      ∃ feed, last.board.feeds[consumer]? = some feed ∧
        obtained consumer enabled turnover ++ feed.queued = emitted enabled turnover := by
  obtain ⟨hfollowed, hheard⟩ := announcements_replayed_of_run.1 { queueSize := 16 } opening turnover
  have hstays : .enable ∉ turnover := by simp [turnover]
  exact ⟨by decide +kernel, hfollowed, by decide +kernel,
    hheard (by decide) hstays (by simp [turnover]) (by decide +kernel)⟩

end AnnouncingDealer

end Wamp
