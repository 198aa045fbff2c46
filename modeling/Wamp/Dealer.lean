import Std.Data.ExtTreeSet
import Std.Data.ExtTreeSet.Lemmas
import Wamp.Journal
import Wamp.Outcome
import Wamp.Registration.Announcement
import Wamp.Session
import Wamp.Uri.Directory

/-!
# The dealer

The dealer of a realm owns the registrations and the invocations in flight.  This module holds
its state, its refusals and notes, the sessions, and what can be asked of the registrations.
-/

namespace Wamp

inductive DealerError where
  | duplicateSession (session : Id)
  | unknownSession (session : Id)
  | unknownRegistration (session registration : Id)
  | noPendingCall (invocation : Id)
  | noPendingInvocation (invocation : Id)
  | noPendingInvocationToCancel (caller request : Id)
  /-- An error that does not answer an invocation. -/
  | unexpectedErrorReply (kind : MessageKind)
  | calleeGone (callee : Id)
  | callerGone (caller : Id)
  | unsupportedCancelMode (mode : String)
  | unexpectedMessage (kind : MessageKind)
  deriving DecidableEq, Repr

def DealerError.message : DealerError → String
  | .duplicateSession session => s!"session {session} is already attached"
  | .unknownSession session => s!"session {session} is not attached"
  | .unknownRegistration session registration =>
    s!"session {session} holds no registration {registration}"
  | .noPendingCall invocation => s!"no pending call for invocation {invocation}"
  | .noPendingInvocation invocation => s!"no pending invocation {invocation}"
  | .noPendingInvocationToCancel caller request =>
    s!"no pending invocation to cancel for request {request} of session {caller}"
  | .unexpectedErrorReply kind =>
    s!"dealer only accepts ERROR in reply to INVOCATION, got reply to {kind.name}"
  | .calleeGone callee => s!"callee {callee} is no longer attached"
  | .callerGone caller => s!"caller {caller} is no longer attached"
  | .unsupportedCancelMode mode => s!"unsupported cancel mode {mode}"
  | .unexpectedMessage kind => s!"dealer cannot handle {kind.name} messages"

/-- A call as its caller knows it. -/
structure CallKey where
  caller : Id
  request : Id
  deriving DecidableEq, Repr

namespace CallKey

instance : Ord CallKey where
  compare left right := (compare left.caller right.caller).then (compare left.request right.request)

theorem compare_def (left right : CallKey) :
    compare left right =
      (compare left.caller right.caller).then (compare left.request right.request) := rfl

instance : Std.LawfulEqOrd CallKey where
  compare_self := by simp [compare_def]
  eq_of_compare {left right} h := by
    rw [compare_def, Ordering.then_eq_eq] at h
    cases left
    cases right
    simpa [Nat.compare_eq_eq] using h

instance : Std.TransOrd CallKey where
  eq_swap {left right} := by
    rw [compare_def, compare_def, Ordering.swap_then, ← Std.OrientedCmp.eq_swap,
      ← Std.OrientedCmp.eq_swap]
  isLE_trans {left middle right} hfirst hsecond := by
    rw [compare_def, Ordering.isLE_then_iff_or] at *
    simp only [Nat.compare_eq_lt, Nat.compare_eq_eq, Nat.isLE_compare] at *
    omega

end CallKey

/-- Where a call is handed to: a callee, the registration it serves, and the policy by which the
call found that registration. -/
structure Route where
  callee : Id
  registration : Id
  policy : MatchPolicy
  deriving DecidableEq, Repr

/-- A dispatched call that awaits its callee's reply. -/
structure Pending extends Route where
  request : Id
  caller : Id
  receiveProgress : Bool
  progress : Bool
  /-- Set by a kill: the next reply of the callee ends the call as canceled. -/
  canceled : Bool := false
  deriving DecidableEq, Repr

def Pending.key (pending : Pending) : CallKey where
  caller := pending.caller
  request := pending.request

structure Dealer where
  sessions : Std.ExtTreeMap Id Session := ∅
  registrations : Std.ExtTreeMap Id Registration := ∅
  /-- The registrations that each attached session serves. -/
  held : Holdings := ∅
  directory : Uri.Directory Id := {}
  /-- The invocations in flight. -/
  pending : Std.ExtTreeMap Id Pending := ∅
  invocationOf : Std.ExtTreeMap CallKey Id := ∅
  discloseCaller : Bool := false
  ids : IdCounter := {}
  deriving DecidableEq

namespace Dealer

/-- What the dealer reports, in the order of its work: what goes into the journal, and the
announcements of registration changes. -/
inductive Note where
  | registrationCreated (registration : Registration)
  | registrationRejected (session : Id) (procedure : String) (requested : InvocationPolicy)
  | calleeAdded (session registration : Id) (procedure : String)
  | calleeRemoved (session registration : Id) (procedure : String)
  | registrationDeleted (registration : Id) (procedure : String)
  | callRouted (session request : Id) (procedure : String) (registration invocation callee : Id)
  | callNoSuchProcedure (session request : Id) (procedure : String)
  | yieldRouted (session invocation request : Id) (progress : Bool)
  | invocationErrorRouted (session invocation request : Id) (uri : String)
  | callCanceled (session request invocation : Id) (mode : CancelMode)
  | pendingInvocationDropped (session invocation : Id)
  | announced (announcement : Announcement)
  deriving DecidableEq, Repr

open Journal in
/-- The journal entry of a note; announcements have none of their own. -/
def Note.logged? (note : Note) : Option Entry :=
  let write (level : Level) (event sentence : String) (fields : List (String × Field)) :
      Option Entry :=
    some { level, component := "dealer", event, sentence, fields }
  match note with
  | .registrationCreated registration =>
    write .debug "registration_created" "registration created"
      [("registration_id", .number registration.id), ("procedure", .text registration.procedure),
        ("match_policy", .text registration.policy.name),
        ("invocation_policy", .text registration.invoke.name)]
  | .registrationRejected session procedure requested =>
    write .info "registration_rejected" "procedure already registered"
      [("session_id", .number session), ("procedure", .text procedure),
        ("invocation_policy", .text requested.name)]
  | .calleeAdded session registration procedure =>
    write .debug "callee_added" "callee added"
      [("session_id", .number session), ("registration_id", .number registration),
        ("procedure", .text procedure)]
  | .calleeRemoved session registration procedure =>
    write .debug "callee_removed" "callee removed"
      [("session_id", .number session), ("registration_id", .number registration),
        ("procedure", .text procedure)]
  | .registrationDeleted registration procedure =>
    write .debug "registration_deleted" "registration deleted"
      [("registration_id", .number registration), ("procedure", .text procedure)]
  | .callRouted session request procedure registration invocation callee =>
    write .debug "call_routed" "call routed"
      [("session_id", .number session), ("request_id", .number request),
        ("procedure", .text procedure), ("registration_id", .number registration),
        ("invocation_id", .number invocation), ("callee", .number callee)]
  | .callNoSuchProcedure session request procedure =>
    write .info "call_no_such_procedure" "no registration matches procedure"
      [("session_id", .number session), ("request_id", .number request),
        ("procedure", .text procedure)]
  | .yieldRouted session invocation request progress =>
    write .debug "yield_routed" "result routed to caller"
      [("session_id", .number session), ("invocation_id", .number invocation),
        ("request_id", .number request), ("progress", .flag progress)]
  | .invocationErrorRouted session invocation request uri =>
    write .debug "invocation_error_routed" "invocation error routed to caller"
      [("session_id", .number session), ("invocation_id", .number invocation),
        ("request_id", .number request), ("err", .text uri)]
  | .callCanceled session request invocation mode =>
    write .info "call_canceled" "call canceled"
      [("session_id", .number session), ("request_id", .number request),
        ("invocation_id", .number invocation), ("mode", .text mode.name)]
  | .pendingInvocationDropped session invocation =>
    write .debug "pending_invocation_dropped" "caller detached with invocation in flight"
      [("session_id", .number session), ("invocation_id", .number invocation)]
  | .announced _ => none

abbrev Reply (Answer : Type) := Outcome Dealer DealerError Note Answer

def isAttached (dealer : Dealer) (session : Id) : Bool :=
  dealer.sessions.contains session

def isLive (dealer : Dealer) (registration : Id) : Bool :=
  (dealer.registrations[registration]?).any fun found => !found.callees.isEmpty

def hasProcedure (dealer : Dealer) (procedure : String) : Bool :=
  (dealer.directory.get? procedure).any fun entry => dealer.isLive entry.value

/-- The registration that a fresh call would be dispatched through. -/
def matchRegistration? (dealer : Dealer) (procedure : String) : Option Registration :=
  match dealer.directory.resolve? procedure dealer.isLive with
  | none => none
  | some entry => dealer.registrations[entry.value]?

def registrationsWith (dealer : Dealer) (policy : MatchPolicy) : Std.ExtTreeMap Id Registration :=
  dealer.registrations.foldl
    (fun found _ registration =>
      if registration.policy = policy then found.insert registration.id registration
      else found) ∅

def registrationsByProcedure (dealer : Dealer) : Std.ExtTreeMap String Registration :=
  dealer.registrations.foldl
    (fun found _ registration => found.insert registration.procedure registration) ∅

def setDisclosure (dealer : Dealer) (disclose : Bool) : Dealer :=
  { dealer with discloseCaller := disclose }

def addSession (dealer : Dealer) (session : Session) : Reply Unit :=
  if dealer.isAttached session.id then
    .refused dealer (.duplicateSession session.id)
  else
    .granted
      { dealer with
        sessions := dealer.sessions.insert session.id session
        held := dealer.held.insert session.id ∅ } ()

/-- Takes a callee out of one registration, and the registration away once nobody serves it. -/
def removeCallee (dealer : Dealer) (session registration : Id) : Dealer × List Note :=
  match dealer.registrations[registration]? with
  | none => (dealer, [])
  | some found =>
    if found.callees.contains session then
      let left := found.leave session
      let removed := [
        Note.calleeRemoved session registration found.procedure,
        .announced (.calleeRemoved session registration)]
      if left.callees.isEmpty then
        ({ dealer with
            registrations := dealer.registrations.erase registration
            directory := dealer.directory.erase found.procedure },
          removed ++ [
            .registrationDeleted registration found.procedure,
            .announced (.registrationDeleted session registration)])
      else
        ({ dealer with registrations := dealer.registrations.insert registration left }, removed)
    else
      (dealer, [])

def removeCalleeFromAll (dealer : Dealer) (session : Id) : List Id → Dealer × List Note
  | [] => (dealer, [])
  | registration :: rest =>
    let (dealer, notes) := dealer.removeCallee session registration
    let (dealer, more) := dealer.removeCalleeFromAll session rest
    (dealer, notes ++ more)

/-- Forgets an invocation in flight, and the call that led to it unless the call has moved on to
another invocation. -/
def dropPending (dealer : Dealer) (invocation : Id) : Dealer :=
  match dealer.pending[invocation]? with
  | none => dealer
  | some found =>
    { dealer with
      pending := dealer.pending.erase invocation
      invocationOf :=
        if dealer.invocationOf[found.key]? = some invocation then
          dealer.invocationOf.erase found.key
        else
          dealer.invocationOf }

theorem pending_dropPending (dealer : Dealer) (invocation : Id) :
    (dealer.dropPending invocation).pending = dealer.pending.erase invocation := by
  unfold dropPending
  cases h : dealer.pending[invocation]? with
  | none =>
    refine Std.ExtTreeMap.ext_getElem? fun other => ?_
    rw [Std.ExtTreeMap.getElem?_erase]
    by_cases heq : compare invocation other = .eq
    · rw [if_pos heq, ← Std.LawfulEqCmp.eq_of_compare heq]
      exact h
    · rw [if_neg heq]
  | some found => rfl

/-- The invocations in flight that a session waits for, in ascending order. -/
def pendingOf (dealer : Dealer) (caller : Id) : List Id :=
  (dealer.pending.toList.filter fun (_, pending) => pending.caller = caller).map Prod.fst

/-- Detaches a session together with its registrations and the calls it waits for. -/
def removeSession (dealer : Dealer) (session : Id) : Reply Unit :=
  if dealer.isAttached session then
    let registrations := (dealer.held.getD session ∅).toList
    let detached :=
      { dealer with
        sessions := dealer.sessions.erase session
        held := dealer.held.erase session }
    let (state, notes) := detached.removeCalleeFromAll session registrations
    let abandoned := state.pendingOf session
    .granted (abandoned.foldl dropPending state) ()
      (notes ++ abandoned.map (Note.pendingInvocationDropped session))
  else
    .refused dealer (.unknownSession session)

end Dealer

end Wamp
