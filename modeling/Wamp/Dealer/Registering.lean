import Wamp.Dealer

/-!
# Registering procedures

A procedure string has at most one registration.  A session may join it if its invocation policy
is shared and is the one the session asks for; otherwise the request is answered with an error,
which is a reply and not a refusal.
-/

namespace Wamp.Dealer

/-- The identifier of a new registration: the first drawn one that is free.  Draws that are not
listed count as 1, 2, 3 and so on, so that one of them is. -/
def freshRegistrationId (dealer : Dealer) (ambient : Ambient) : Id :=
  let free (id : Id) : Bool := !dealer.registrations.contains id
  match (ambient.drawnId :: ambient.laterIds).find? free with
  | some id => id
  | none =>
    ((List.range' 1 (dealer.registrations.size + 1)).find? free).getD ambient.drawnId

/-- Lets a session join a registration as its last callee. -/
def enroll (dealer : Dealer) (session : Id) (registration : Registration) (request : Register) :
    Reply (List Routed) :=
  let state :=
    { dealer with
      registrations := dealer.registrations.insert registration.id registration
      held := dealer.held.insert session
        ((dealer.held.getD session ∅).insert registration.id) }
  .granted state
    [{ recipient := session
       message := .registered { request := request.request, registration := registration.id } }]
    [.calleeAdded session registration.id request.procedure,
      .announced (.calleeAdded session registration.id)]

def rejectRegistration (dealer : Dealer) (session : Id) (request : Register)
    (requested : InvocationPolicy) : Reply (List Routed) :=
  .granted dealer
    [{ recipient := session
       message := .error (.plain .register request.request ErrorUri.procedureAlreadyExists) }]
    [.registrationRejected session request.procedure requested]

def register (dealer : Dealer) (ambient : Ambient) (session : Id) (request : Register) :
    Reply (List Routed) :=
  if dealer.isAttached session then
    let requested := InvocationPolicy.ofOptions request.options
    match dealer.directory.get? request.procedure with
    | some entry =>
      match dealer.registrations[entry.value]? with
      | none => dealer.rejectRegistration session request requested
      | some found =>
        if found.admits requested && !found.callees.contains session then
          dealer.enroll session (found.join session) request
        else
          dealer.rejectRegistration session request requested
    | none =>
      let policy := MatchPolicy.ofOptions request.options
      let created : Registration := {
        id := dealer.freshRegistrationId ambient
        procedure := request.procedure
        policy
        invoke := requested
        callees := [session]
        created := ambient.now }
      let listed :=
        { dealer with directory := dealer.directory.insert request.procedure policy created.id }
      let outcome := listed.enroll session created request
      { outcome with
        notes :=
          .registrationCreated created :: .announced (.registrationCreated created) ::
            outcome.notes }
  else
    .refused dealer (.unknownSession session)

def unregister (dealer : Dealer) (session : Id) (request : Unregister) : Reply (List Routed) :=
  match dealer.held[session]? with
  | none => .refused dealer (.unknownSession session)
  | some registrations =>
    let released :=
      { dealer with
        held := dealer.held.insert session (registrations.erase request.registration) }
    if registrations.contains request.registration then
      let (state, notes) := released.removeCallee session request.registration
      .granted state
        [{ recipient := session, message := .unregistered { request := request.request } }] notes
    else
      .refused released (.unknownRegistration session request.registration)

end Wamp.Dealer
