import Wamp.Proofs.Dealer.Run
import Wamp.Proofs.Holdings

/-!
# What an operation of a dealer does

An operation is either refused, and then keeps the state, or served.  Both are said once, by two
relations with one case for every reason to refuse an operation and for every way to serve it, so
that an invariant of the dealer takes a case analysis and no more unfolding.
-/

namespace Wamp

def Pending.ofCall (session : Id) (route : Route) (request : Call) : Pending :=
  { route with
    request := request.request
    caller := session
    receiveProgress := request.options.flag "receive_progress"
    progress := request.options.flag "progress" }

namespace Dealer

/-- The state of a dealer that a session has left together with its registrations. -/
def withdrawn (dealer : Dealer) (session : Id) : Dealer :=
  let detached :=
    { dealer with
      sessions := dealer.sessions.erase session
      held := dealer.held.erase session }
  (detached.removeCalleeFromAll session (dealer.held.getD session ∅).toList).1

theorem withdrawn_eq (dealer : Dealer) (session : Id) :
    ∃ registrations directory, dealer.withdrawn session =
      { dealer with
        sessions := dealer.sessions.erase session
        held := dealer.held.erase session
        registrations, directory } := by
  unfold withdrawn
  exact removeCalleeFromAll_eq _ _ _

/-- The state of a dealer in which a session has given one registration back. -/
def released (dealer : Dealer) (session : Id) (ids : Std.ExtTreeSet Id)
    (registration : Id) : Dealer :=
  let returned := { dealer with held := dealer.held.insert session (ids.erase registration) }
  (returned.removeCallee session registration).1

theorem released_eq (dealer : Dealer) (session : Id) (ids : Std.ExtTreeSet Id)
    (registration : Id) :
    ∃ registrations directory, dealer.released session ids registration =
      { dealer with
        held := dealer.held.insert session (ids.erase registration)
        registrations, directory } := by
  unfold released
  exact removeCallee_eq _ _ _

/-- The state of a dealer in which a callee has been chosen for a call. -/
def committed (dealer : Dealer) (id : Id) (registration : Registration) (position : Nat) :
    Dealer :=
  { dealer with
    registrations := dealer.registrations.insert id (registration.commit position) }

def created (dealer : Dealer) (ambient : Ambient) (session : Id) (request : Register) :
    Registration where
  id := dealer.freshRegistrationId ambient
  procedure := request.procedure
  policy := MatchPolicy.ofOptions request.options
  invoke := InvocationPolicy.ofOptions request.options
  callees := [session]
  created := ambient.now

def listed (dealer : Dealer) (registration : Registration) : Dealer :=
  { dealer with
    directory := dealer.directory.insert registration.procedure registration.policy
      registration.id }

/-- The state of a dealer in which a session serves a registration. -/
def enrolled (dealer : Dealer) (session : Id) (registration : Registration) : Dealer :=
  { dealer with
    registrations := dealer.registrations.insert registration.id registration
    held := dealer.held.insert session
      ((dealer.held.getD session ∅).insert registration.id) }

/-- The invocation by which a callee learns of one chunk of a call. -/
def chunk (dealer : Dealer) (caller callee : Session) (route : Route) (request : Call)
    (invocation : Id) : Invocation :=
  let details := dealer.callDetails caller request
  { request.toContent.adapted callee.staticSerializer with
    request := invocation
    registration := route.registration
    details :=
      if route.policy = .exact then details
      else details.insert "procedure" (.text request.procedure) }

/-- The result by which a caller learns of what its callee yields. -/
def relayed (pending : Pending) (caller : Session) (request : Yield) (progress : Bool) :
    CallResult :=
  { request.toContent.adapted caller.staticSerializer with
    request := pending.request
    details := if progress then (∅ : Dict).insert "progress" (.boolean true) else ∅ }

def interruption (mode : CancelMode) (invocation : Id) (pending : Pending) : Routed where
  recipient := pending.callee
  message := .interrupt { request := invocation, options := interruptOptions mode }

def failure (session : Id) (answers : MessageKind) (request : Id) (uri : String) : Routed where
  recipient := session
  message := .error (.plain answers request uri)

open ErrorUri in
/-- What a granted operation leaves behind and what it leads to, with one case for every way to
serve it. -/
inductive Serves (dealer : Dealer) : Operation → Dealer → List Routed → Prop where
  | attached (session : Session) (hnew : dealer.isAttached session.id = false) :
      Serves dealer (.attach session)
        { dealer with
          sessions := dealer.sessions.insert session.id session
          held := dealer.held.insert session.id ∅ } []
  | detached (session : Id) (hattached : dealer.isAttached session = true) :
      Serves dealer (.detach session)
        (((dealer.withdrawn session).pendingOf session).foldl dropPending
          (dealer.withdrawn session)) []
  | disclosed (on : Bool) : Serves dealer (.disclose on) (dealer.setDisclosure on) []
  | registered (ambient : Ambient) (session : Id) (request : Register)
      (hattached : dealer.isAttached session = true)
      (hfree : dealer.directory.get? request.procedure = none) :
      Serves dealer (.receive ambient session (.register request))
        ((dealer.listed (dealer.created ambient session request)).enrolled session
          (dealer.created ambient session request))
        [{ recipient := session
           message := .registered {
            request := request.request
            registration := dealer.freshRegistrationId ambient } }]
  | joined (ambient : Ambient) (session : Id) (request : Register)
      (entry : Uri.Entry Id) (found : Registration)
      (hattached : dealer.isAttached session = true)
      (hentry : dealer.directory.get? request.procedure = some entry)
      (hfound : dealer.registrations[entry.value]? = some found)
      (hadmits : found.admits (InvocationPolicy.ofOptions request.options) = true)
      (hnew : session ∉ found.callees) :
      Serves dealer (.receive ambient session (.register request))
        (dealer.enrolled session (found.join session))
        [{ recipient := session
           message := .registered { request := request.request, registration := found.id } }]
  | rejected (ambient : Ambient) (session : Id) (request : Register)
      (hattached : dealer.isAttached session = true) :
      Serves dealer (.receive ambient session (.register request)) dealer
        [failure session .register request.request procedureAlreadyExists]
  | unregistered (ambient : Ambient) (session : Id) (request : Unregister)
      (ids : Std.ExtTreeSet Id) (hrow : dealer.held[session]? = some ids)
      (hheld : request.registration ∈ ids) :
      Serves dealer (.receive ambient session (.unregister request))
        (dealer.released session ids request.registration)
        [{ recipient := session, message := .unregistered { request := request.request } }]
  | unresolved (ambient : Ambient) (session : Id) (request : Call) (caller : Session)
      (hcaller : dealer.sessions[session]? = some caller)
      (hclosed : dealer.openInvocation? { caller := session, request := request.request } =
        none) :
      Serves dealer (.receive ambient session (.call request)) dealer
        [failure session .call request.request noSuchProcedure]
  | dispatched (ambient : Ambient) (session : Id) (request : Call) (caller callee : Session)
      (entry : Uri.Entry Id) (found : Registration) (position : Nat) (route : Route)
      (hcaller : dealer.sessions[session]? = some caller)
      (hclosed : dealer.openInvocation? { caller := session, request := request.request } =
        none)
      (hentry : dealer.directory.resolve? request.procedure dealer.isLive = some entry)
      (hfound : dealer.registrations[entry.value]? = some found)
      (hpick : found.pick? ambient.drawnIndex = some position)
      (hposition : found.callees[position]? = some route.callee)
      (hroute : route.registration = entry.value ∧ route.policy = entry.policy)
      (hcallee : dealer.sessions[route.callee]? = some callee) :
      Serves dealer (.receive ambient session (.call request))
        ((dealer.committed entry.value found position).launch
          (.ofCall session route request)).2
        [{ recipient := route.callee
           message := .invocation
            (dealer.chunk caller callee route request dealer.ids.next.1) }]
  | continued (ambient : Ambient) (session : Id) (request : Call) (caller callee : Session)
      (invocation : Id) (pending : Pending)
      (hcaller : dealer.sessions[session]? = some caller)
      (hopen : dealer.openInvocation? { caller := session, request := request.request } =
        some (invocation, pending))
      (hcallee : dealer.sessions[pending.callee]? = some callee)
      (hprogress : request.options.flag "progress" = true) :
      Serves dealer (.receive ambient session (.call request)) dealer
        [{ recipient := pending.callee
           message := .invocation
            (dealer.chunk caller callee pending.toRoute request invocation) }]
  | closed (ambient : Ambient) (session : Id) (request : Call) (caller callee : Session)
      (invocation : Id) (pending : Pending)
      (hcaller : dealer.sessions[session]? = some caller)
      (hopen : dealer.openInvocation? { caller := session, request := request.request } =
        some (invocation, pending))
      (hcallee : dealer.sessions[pending.callee]? = some callee)
      (hprogress : request.options.flag "progress" = false) :
      Serves dealer (.receive ambient session (.call request))
        (dealer.launch (.ofCall session pending.toRoute request)).2
        [{ recipient := pending.callee
           message := .invocation
            (dealer.chunk caller callee pending.toRoute request dealer.ids.next.1) }]
  | killed (ambient : Ambient) (session : Id) (request : Yield) (pending : Pending)
      (caller : Session) (hpending : dealer.pendingFor? session request.request = some pending)
      (hcaller : dealer.sessions[pending.caller]? = some caller)
      (hcanceled : pending.canceled = true) :
      Serves dealer (.receive ambient session (.yield request))
        (dealer.dropPending request.request)
        [failure caller.id .call pending.request canceled]
  | progressed (ambient : Ambient) (session : Id) (request : Yield) (pending : Pending)
      (caller : Session) (hpending : dealer.pendingFor? session request.request = some pending)
      (hcaller : dealer.sessions[pending.caller]? = some caller)
      (hcanceled : pending.canceled = false) (hreceive : pending.receiveProgress = true)
      (hprogress : request.options.flag "progress" = true) :
      Serves dealer (.receive ambient session (.yield request)) dealer
        [{ recipient := caller.id, message := .result (relayed pending caller request true) }]
  | finished (ambient : Ambient) (session : Id) (request : Yield) (pending : Pending)
      (caller : Session) (hpending : dealer.pendingFor? session request.request = some pending)
      (hcaller : dealer.sessions[pending.caller]? = some caller)
      (hcanceled : pending.canceled = false)
      (hfinal : (pending.receiveProgress && request.options.flag "progress") = false) :
      Serves dealer (.receive ambient session (.yield request))
        (dealer.dropPending request.request)
        [{ recipient := caller.id, message := .result (relayed pending caller request false) }]
  | failed (ambient : Ambient) (session : Id) (reply : ErrorReply) (pending : Pending)
      (hanswers : reply.answers = .invocation)
      (hpending : dealer.pendingFor? session reply.request = some pending)
      (hcaller : dealer.isAttached pending.caller = true) :
      Serves dealer (.receive ambient session (.error reply))
        (dealer.dropPending reply.request)
        [{ recipient := pending.caller
           message := .error { reply with answers := .call, request := pending.request } }]
  | skipped (ambient : Ambient) (session : Id) (request : Cancel) (invocation : Id)
      (pending : Pending) (hmode : CancelMode.ofOptions request.options = .ok .skip)
      (hindex : dealer.invocationOf[
        ({ caller := session, request := request.request } : CallKey)]? = some invocation)
      (hpending : dealer.pending[invocation]? = some pending) :
      Serves dealer (.receive ambient session (.cancel request))
        (dealer.dropPending invocation)
        [failure session .call request.request canceled]
  | interrupted (ambient : Ambient) (session : Id) (request : Cancel) (invocation : Id)
      (pending : Pending) (hmode : CancelMode.ofOptions request.options = .ok .kill)
      (hindex : dealer.invocationOf[
        ({ caller := session, request := request.request } : CallKey)]? = some invocation)
      (hpending : dealer.pending[invocation]? = some pending)
      (hcallee : dealer.isAttached pending.callee = true) :
      Serves dealer (.receive ambient session (.cancel request))
        (dealer.markCanceled invocation) [interruption .kill invocation pending]
  | aborted (ambient : Ambient) (session : Id) (request : Cancel) (invocation : Id)
      (pending : Pending) (hmode : CancelMode.ofOptions request.options = .ok .killNoWait)
      (hindex : dealer.invocationOf[
        ({ caller := session, request := request.request } : CallKey)]? = some invocation)
      (hpending : dealer.pending[invocation]? = some pending)
      (hcallee : dealer.isAttached pending.callee = true) :
      Serves dealer (.receive ambient session (.cancel request))
        (dealer.dropPending invocation)
        [interruption .killNoWait invocation pending,
          failure session .call request.request canceled]

section Dispatch

variable {dealer : Dealer} {route : Route} {callee : Session}

theorem handOver_of_attached (hcallee : dealer.sessions[route.callee]? = some callee)
    (session : Id) (caller : Session) (request : Call) (invocation : Id) :
    dealer.handOver session caller route request invocation =
      .granted dealer
        [{ recipient := route.callee
           message := .invocation (dealer.chunk caller callee route request invocation) }]
        [.callRouted session request.request request.procedure route.registration invocation
          route.callee] := by
  simp only [handOver, hcallee]
  rfl

/-- Putting a call in flight leaves the sessions alone, so that its callee is still found. -/
theorem dispatch_of_attached (hcallee : dealer.sessions[route.callee]? = some callee)
    (session : Id) (caller : Session) (request : Call) :
    dealer.dispatch session caller route request =
      .granted (dealer.launch (.ofCall session route request)).2
        [{ recipient := route.callee
           message := .invocation
            (dealer.chunk caller callee route request dealer.ids.next.1) }]
        [.callRouted session request.request request.procedure route.registration
          dealer.ids.next.1 route.callee] := by
  have hdispatch : dealer.dispatch session caller route request =
      (dealer.launch (.ofCall session route request)).2.handOver session caller route
        request (dealer.launch (.ofCall session route request)).1 := rfl
  have hlaunched :
      (dealer.launch (.ofCall session route request)).2.sessions[route.callee]? =
        some callee := by
    rw [launch_eq]
    exact hcallee
  rw [hdispatch, handOver_of_attached hlaunched, launch_eq]
  rfl

end Dispatch

/-- Why an operation is refused, with one case for every reason. -/
inductive Refuses (dealer : Dealer) : Operation → DealerError → Prop where
  | alreadyAttached (session : Session) (hattached : dealer.isAttached session.id = true) :
      Refuses dealer (.attach session) (.duplicateSession session.id)
  | notAttached (session : Id) (hattached : dealer.isAttached session = false) :
      Refuses dealer (.detach session) (.unknownSession session)
  | strangerRegisters (ambient : Ambient) (session : Id) (request : Register)
      (hattached : dealer.isAttached session = false) :
      Refuses dealer (.receive ambient session (.register request)) (.unknownSession session)
  | strangerUnregisters (ambient : Ambient) (session : Id) (request : Unregister)
      (hrow : dealer.held[session]? = none) :
      Refuses dealer (.receive ambient session (.unregister request)) (.unknownSession session)
  | notHeld (ambient : Ambient) (session : Id) (request : Unregister)
      (ids : Std.ExtTreeSet Id) (hrow : dealer.held[session]? = some ids)
      (hheld : request.registration ∉ ids) :
      Refuses dealer (.receive ambient session (.unregister request))
        (.unknownRegistration session request.registration)
  | strangerCalls (ambient : Ambient) (session : Id) (request : Call)
      (hcaller : dealer.sessions[session]? = none) :
      Refuses dealer (.receive ambient session (.call request)) (.unknownSession session)
  | chosenCalleeGone (ambient : Ambient) (session : Id) (request : Call) (caller : Session)
      (entry : Uri.Entry Id) (found : Registration) (position : Nat) (callee : Id)
      (hcaller : dealer.sessions[session]? = some caller)
      (hclosed : dealer.openInvocation? { caller := session, request := request.request } =
        none)
      (hentry : dealer.directory.resolve? request.procedure dealer.isLive = some entry)
      (hfound : dealer.registrations[entry.value]? = some found)
      (hpick : found.pick? ambient.drawnIndex = some position)
      (hposition : found.callees[position]? = some callee)
      (hcallee : dealer.sessions[callee]? = none) :
      Refuses dealer (.receive ambient session (.call request)) (.calleeGone callee)
  | openCalleeGone (ambient : Ambient) (session : Id) (request : Call) (caller : Session)
      (invocation : Id) (pending : Pending)
      (hcaller : dealer.sessions[session]? = some caller)
      (hopen : dealer.openInvocation? { caller := session, request := request.request } =
        some (invocation, pending))
      (hcallee : dealer.sessions[pending.callee]? = none) :
      Refuses dealer (.receive ambient session (.call request)) (.calleeGone pending.callee)
  | yieldsToNone (ambient : Ambient) (session : Id) (request : Yield)
      (hpending : dealer.pendingFor? session request.request = none) :
      Refuses dealer (.receive ambient session (.yield request))
        (.noPendingCall request.request)
  | yieldsToGone (ambient : Ambient) (session : Id) (request : Yield) (pending : Pending)
      (hpending : dealer.pendingFor? session request.request = some pending)
      (hcaller : dealer.sessions[pending.caller]? = none) :
      Refuses dealer (.receive ambient session (.yield request)) (.callerGone pending.caller)
  | answersOther (ambient : Ambient) (session : Id) (reply : ErrorReply)
      (hanswers : reply.answers ≠ .invocation) :
      Refuses dealer (.receive ambient session (.error reply))
        (.unexpectedErrorReply reply.answers)
  | failsNone (ambient : Ambient) (session : Id) (reply : ErrorReply)
      (hpending : dealer.pendingFor? session reply.request = none) :
      Refuses dealer (.receive ambient session (.error reply))
        (.noPendingInvocation reply.request)
  | failsGone (ambient : Ambient) (session : Id) (reply : ErrorReply) (pending : Pending)
      (hpending : dealer.pendingFor? session reply.request = some pending)
      (hcaller : dealer.isAttached pending.caller = false) :
      Refuses dealer (.receive ambient session (.error reply)) (.callerGone pending.caller)
  | unknownMode (ambient : Ambient) (session : Id) (request : Cancel) (mode : String)
      (hmode : CancelMode.ofOptions request.options = .error mode) :
      Refuses dealer (.receive ambient session (.cancel request)) (.unsupportedCancelMode mode)
  | cancelsNone (ambient : Ambient) (session : Id) (request : Cancel)
      (hindex : ∀ invocation : Id,
        dealer.invocationOf[({ caller := session, request := request.request } : CallKey)]? =
          some invocation → dealer.pending[invocation]? = none) :
      Refuses dealer (.receive ambient session (.cancel request))
        (.noPendingInvocationToCancel session request.request)
  | canceledCalleeGone (ambient : Ambient) (session : Id) (request : Cancel) (mode : CancelMode)
      (invocation : Id) (pending : Pending)
      (hmode : CancelMode.ofOptions request.options = .ok mode) (hwaits : mode ≠ .skip)
      (hindex : dealer.invocationOf[
        ({ caller := session, request := request.request } : CallKey)]? = some invocation)
      (hpending : dealer.pending[invocation]? = some pending)
      (hcallee : dealer.isAttached pending.callee = false) :
      Refuses dealer (.receive ambient session (.cancel request)) (.calleeGone pending.callee)
  | unexpected (ambient : Ambient) (session : Id) (message : Message)
      (hkind : message.kind ∉
        [.register, .unregister, .call, .yield, .error, .cancel]) :
      Refuses dealer (.receive ambient session message) (.unexpectedMessage message.kind)

inductive Settles (dealer : Dealer) (operation : Operation) : Reply (List Routed) → Prop where
  | refused (error : DealerError) (hrefuses : dealer.Refuses operation error) :
      Settles dealer operation (.refused dealer error)
  | granted (state : Dealer) (routed : List Routed) (notes : List Note)
      (hserves : dealer.Serves operation state routed) :
      Settles dealer operation (.granted state routed notes)

section Settles

variable (dealer : Dealer) (ambient : Ambient) (session : Id)

theorem settles_attach (details : Session) :
    dealer.Settles (.attach details) (dealer.perform (.attach details)) := by
  simp only [perform, addSession]
  split
  next hattached => exact .refused _ (.alreadyAttached details hattached)
  next hnew => exact .granted _ _ _ (.attached details (by simpa using hnew))

theorem settles_detach : dealer.Settles (.detach session) (dealer.perform (.detach session)) := by
  simp only [perform, removeSession]
  split
  next hattached => exact .granted _ _ _ (.detached session hattached)
  next hattached => exact .refused _ (.notAttached session (by simpa using hattached))

theorem settles_register (request : Register) :
    dealer.Settles (.receive ambient session (.register request))
      (dealer.register ambient session request) := by
  unfold register
  split
  next hattached =>
    simp only
    cases hentry : dealer.directory.get? request.procedure with
    | none => exact .granted _ _ _ (.registered ambient session request hattached hentry)
    | some entry =>
        simp only
        cases hfound : dealer.registrations[entry.value]? with
        | none => exact .granted _ _ _ (.rejected ambient session request hattached)
        | some found =>
            simp only
            split
            next hadmits =>
              rw [Bool.and_eq_true] at hadmits
              exact .granted _ _ _ (.joined ambient session request entry found hattached hentry
                hfound hadmits.1 (by simpa using hadmits.2))
            next => exact .granted _ _ _ (.rejected ambient session request hattached)
  next hattached =>
    exact .refused _ (.strangerRegisters ambient session request (by simpa using hattached))

theorem settles_unregister (request : Unregister) :
    dealer.Settles (.receive ambient session (.unregister request))
      (dealer.unregister session request) := by
  unfold unregister
  cases hrow : dealer.held[session]? with
  | none => exact .refused _ (.strangerUnregisters ambient session request hrow)
  | some ids =>
      simp only
      split
      next hheld =>
        exact .granted _ _ _ (.unregistered ambient session request ids hrow
          (Std.ExtTreeSet.contains_iff_mem.mp hheld))
      next hheld =>
        have hmissing : request.registration ∉ ids := by
          simpa [Std.ExtTreeSet.contains_iff_mem] using hheld
        rw [Holdings.take_of_not_mem hrow hmissing]
        exact .refused _ (.notHeld ambient session request ids hrow hmissing)

theorem settles_callFresh (request : Call) {caller : Session}
    (hcaller : dealer.sessions[session]? = some caller)
    (hclosed : dealer.openInvocation? { caller := session, request := request.request } =
      none) :
    dealer.Settles (.receive ambient session (.call request))
      (dealer.callFresh ambient session caller request) := by
  have hunresolved := Serves.unresolved ambient session request caller hcaller hclosed
  unfold callFresh
  cases hentry : dealer.directory.resolve? request.procedure dealer.isLive with
  | none => exact .granted _ _ _ hunresolved
  | some entry =>
      simp only
      cases hfound : dealer.registrations[entry.value]? with
      | none => exact .granted _ _ _ hunresolved
      | some found =>
          simp only
          cases hpick : found.pick? ambient.drawnIndex with
          | none => exact .granted _ _ _ hunresolved
          | some position =>
              simp only
              cases hposition : found.callees[position]? with
              | none => exact .granted _ _ _ hunresolved
              | some calleeId =>
                  simp only
                  split
                  next hattached =>
                    obtain ⟨callee, hcallee⟩ := isAttached_iff.mp hattached
                    let route : Route :=
                      { callee := calleeId
                        registration := entry.value
                        policy := entry.policy }
                    have hchosen : (dealer.committed entry.value found position).sessions[
                        route.callee]? = some callee := hcallee
                    have hdispatched := dispatch_of_attached hchosen session caller request
                    change dealer.Settles _
                      ((dealer.committed entry.value found position).dispatch session caller
                        route request)
                    rw [hdispatched]
                    exact .granted _ _ _ (.dispatched ambient session request caller callee
                      entry found position route hcaller hclosed hentry hfound hpick hposition
                      ⟨rfl, rfl⟩ hcallee)
                  next hattached =>
                    exact .refused _ (.chosenCalleeGone ambient session request caller entry
                      found position calleeId hcaller hclosed hentry hfound hpick hposition
                      (not_isAttached_iff.mp hattached))

theorem settles_call (request : Call) :
    dealer.Settles (.receive ambient session (.call request))
      (dealer.call ambient session request) := by
  unfold call
  cases hcaller : dealer.sessions[session]? with
  | none => exact .refused _ (.strangerCalls ambient session request hcaller)
  | some caller =>
      simp only
      cases hopen : dealer.openInvocation? { caller := session, request := request.request } with
      | none => exact dealer.settles_callFresh ambient session request hcaller hopen
      | some held =>
          obtain ⟨invocation, pending⟩ := held
          simp only
          cases hcallee : dealer.sessions[pending.callee]? with
          | none =>
              have hgone := not_isAttached_iff.mpr hcallee
              simp only [handOver, hcallee, if_neg hgone, ite_self]
              exact .refused _ (.openCalleeGone ambient session request caller invocation pending
                hcaller hopen hcallee)
          | some callee =>
              have hattached := isAttached_iff.mpr ⟨callee, hcallee⟩
              rw [handOver_of_attached hcallee, dispatch_of_attached hcallee, if_pos hattached]
              split
              next hprogress =>
                exact .granted _ _ _ (.continued ambient session request caller callee invocation
                  pending hcaller hopen hcallee hprogress)
              next hprogress =>
                exact .granted _ _ _ (.closed ambient session request caller callee invocation
                  pending hcaller hopen hcallee (by simpa using hprogress))

theorem settles_yield (request : Yield) :
    dealer.Settles (.receive ambient session (.yield request))
      (dealer.yield session request) := by
  unfold yield
  cases hpending : dealer.pendingFor? session request.request with
  | none => exact .refused _ (.yieldsToNone ambient session request hpending)
  | some pending =>
      simp only
      cases hcaller : dealer.sessions[pending.caller]? with
      | none => exact .refused _ (.yieldsToGone ambient session request pending hpending hcaller)
      | some caller =>
          simp only
          cases hcanceled : pending.canceled with
          | true =>
              exact .granted _ _ _ (.killed ambient session request pending caller hpending
                hcaller hcanceled)
          | false =>
              cases hprogress : pending.receiveProgress && request.options.flag "progress" with
              | true =>
                  rw [Bool.and_eq_true] at hprogress
                  exact .granted _ _ _ (.progressed ambient session request pending caller
                    hpending hcaller hcanceled hprogress.1 hprogress.2)
              | false =>
                  exact .granted _ _ _ (.finished ambient session request pending caller
                    hpending hcaller hcanceled hprogress)

theorem settles_invocationError (reply : ErrorReply) :
    dealer.Settles (.receive ambient session (.error reply))
      (dealer.invocationError session reply) := by
  unfold invocationError
  split
  next hanswers =>
    cases hpending : dealer.pendingFor? session reply.request with
    | none => exact .refused _ (.failsNone ambient session reply hpending)
    | some pending =>
        simp only
        split
        next hcaller =>
          exact .granted _ _ _ (.failed ambient session reply pending hanswers hpending hcaller)
        next hcaller =>
          exact .refused _ (.failsGone ambient session reply pending hpending
            (by simpa using hcaller))
  next hanswers => exact .refused _ (.answersOther ambient session reply hanswers)

theorem settles_cancel (request : Cancel) :
    dealer.Settles (.receive ambient session (.cancel request))
      (dealer.cancel session request) := by
  unfold cancel
  cases hmode : CancelMode.ofOptions request.options with
  | error mode => exact .refused _ (.unknownMode ambient session request mode hmode)
  | ok mode =>
      simp only
      cases hindex : dealer.invocationOf[
        ({ caller := session, request := request.request } : CallKey)]? with
      | none => exact .refused _ (.cancelsNone ambient session request (by simp [hindex]))
      | some invocation =>
          simp only
          cases hpending : dealer.pending[invocation]? with
          | none =>
              refine .refused _ (.cancelsNone ambient session request ?_)
              intro other hother
              rw [hindex, Option.some.injEq] at hother
              rwa [← hother]
          | some pending =>
              simp only
              split
              next hcallee =>
                cases mode with
                | skip =>
                    exact .granted _ _ _ (.skipped ambient session request invocation pending
                      hmode hindex hpending)
                | kill =>
                    exact .granted _ _ _ (.interrupted ambient session request invocation
                      pending hmode hindex hpending (hcallee.resolve_left nofun))
                | killNoWait =>
                    exact .granted _ _ _ (.aborted ambient session request invocation pending
                      hmode hindex hpending (hcallee.resolve_left nofun))
              next hgone =>
                rw [not_or, Bool.not_eq_true] at hgone
                exact .refused _ (.canceledCalleeGone ambient session request mode invocation
                  pending hmode hgone.1 hindex hpending hgone.2)

/-- Every operation is refused for one of the reasons or served in one of the ways above. -/
theorem settles_perform (operation : Operation) :
    dealer.Settles operation (dealer.perform operation) := by
  cases operation with
  | attach details => exact dealer.settles_attach details
  | detach session => exact dealer.settles_detach session
  | receive ambient session message =>
      cases message with
      | register request => exact dealer.settles_register ambient session request
      | unregister request => exact dealer.settles_unregister ambient session request
      | call request => exact dealer.settles_call ambient session request
      | yield request => exact dealer.settles_yield ambient session request
      | error reply => exact dealer.settles_invocationError ambient session reply
      | cancel request => exact dealer.settles_cancel ambient session request
      | _ => exact .refused _ (.unexpected ambient session _ (by simp [Message.kind]))
  | disclose on => exact .granted _ _ _ (.disclosed on)

end Settles

variable {dealer : Dealer} {operation : Operation}

theorem serves_of_granted {routed : List Routed}
    (hanswer : (dealer.perform operation).answer = .ok routed) :
    dealer.Serves operation (dealer.perform operation).state routed := by
  have hsettles := dealer.settles_perform operation
  generalize dealer.perform operation = outcome at hanswer hsettles
  cases hsettles with
  | refused error hrefuses => simp at hanswer
  | granted state routed notes hserves =>
      rw [Outcome.answer_granted, Except.ok.injEq] at hanswer
      rwa [← hanswer]

theorem refuses_of_refused {error : DealerError}
    (hanswer : (dealer.perform operation).answer = .error error) :
    dealer.Refuses operation error ∧ (dealer.perform operation).state = dealer := by
  have hsettles := dealer.settles_perform operation
  generalize dealer.perform operation = outcome at hanswer hsettles
  cases hsettles with
  | refused error hrefuses =>
      rw [Outcome.answer_refused, Except.error.injEq] at hanswer
      rw [← hanswer]
      exact ⟨hrefuses, rfl⟩
  | granted state routed notes hserves => simp at hanswer

/-- What holds of a dealer holds afterwards if every way to serve an operation keeps it. -/
theorem perform_induction (Good : Dealer → Prop) (hgood : Good dealer)
    (hserves : ∀ state routed, dealer.Serves operation state routed → Good state) :
    Good (dealer.perform operation).state := by
  cases hanswer : (dealer.perform operation).answer with
  | error error =>
      rw [(refuses_of_refused hanswer).2]
      exact hgood
  | ok routed => exact hserves _ routed (serves_of_granted hanswer)

/-- A procedure is resolved to a registration, along a route to one of its callees. -/
structure ResolvesAlong (dealer : Dealer) (procedure : String) (entry : Uri.Entry Id)
    (found : Registration) (route : Route) : Prop where
  resolved : dealer.directory.resolve? procedure dealer.isLive = some entry
  registered : dealer.registrations[entry.value]? = some found
  served : route.callee ∈ found.callees
  route_eq : route.registration = entry.value ∧ route.policy = entry.policy

/-- A call is put in flight along the route that its procedure is resolved along, or that of the
call it closes. -/
structure Launches (dealer : Dealer) (session : Id) (request : Call) (route : Route)
    (state : Dealer) (routed : List Routed) : Prop where
  ids_eq : state.ids = dealer.ids.next.2
  pending_eq : state.pending[dealer.ids.next.1]? = some (.ofCall session route request)
  sent : ∃ caller callee, routed =
    [{ recipient := route.callee
       message := .invocation (dealer.chunk caller callee route request dealer.ids.next.1) }]
  chosen :
    (dealer.openInvocation? { caller := session, request := request.request } = none ∧
      ∃ entry found, dealer.ResolvesAlong request.procedure entry found route) ∨
    ∃ earlier old,
      dealer.openInvocation? { caller := session, request := request.request } =
        some (earlier, old) ∧ old.toRoute = route

/-- Only an invocation that is put in flight draws an identifier. -/
theorem Serves.launches_or_ids_eq {state : Dealer} {routed : List Routed}
    (hserves : dealer.Serves operation state routed) :
    (∃ ambient session request route, operation = .receive ambient session (.call request) ∧
      dealer.Launches session request route state routed) ∨ state.ids = dealer.ids := by
  cases hserves with
  | dispatched ambient session request caller callee entry found position route _ hclosed hentry
      hfound _ hposition hroute =>
      refine Or.inl ⟨ambient, session, request, route, rfl, ids_launch _ _,
        getElem?_launch_self (dealer.committed entry.value found position) _,
        ⟨caller, callee, rfl⟩, Or.inl ⟨hclosed, entry, found, ?_⟩⟩
      exact ⟨hentry, hfound, List.mem_of_getElem? hposition, hroute⟩
  | closed ambient session request caller callee earlier old _ hopen =>
      exact Or.inl ⟨ambient, session, request, old.toRoute, rfl, ids_launch _ _,
        getElem?_launch_self dealer _, ⟨caller, callee, rfl⟩, Or.inr ⟨earlier, old, hopen, rfl⟩⟩
  | detached session =>
      right
      obtain ⟨_, _, hdropped⟩ := foldl_dropPending_eq (dealer.withdrawn session)
        ((dealer.withdrawn session).pendingOf session)
      obtain ⟨_, _, hwithdrawn⟩ := dealer.withdrawn_eq session
      rw [hdropped, hwithdrawn]
  | unregistered ambient session request ids =>
      right
      obtain ⟨_, _, hreleased⟩ := dealer.released_eq session ids request.registration
      rw [hreleased]
  | killed | finished | failed | skipped | aborted => exact Or.inr (dealer.ids_dropPending _)
  | _ => exact Or.inr rfl

theorem countsUp : Run.CountsUp perform Dealer.ids := by
  intro dealer operation
  apply perform_induction
    (fun state => state.ids = dealer.ids ∨ state.ids = dealer.ids.next.2) (Or.inl rfl)
  intro state routed hserves
  rcases hserves.launches_or_ids_eq with ⟨_, _, _, _, -, hlaunches⟩ | hkept
  · exact Or.inr hlaunches.ids_eq
  · exact Or.inl hkept

end Dealer

end Wamp
