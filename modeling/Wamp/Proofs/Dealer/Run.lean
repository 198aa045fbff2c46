import Wamp.Dealer.Calling
import Wamp.Proofs.Run

/-!
# Runs of a dealer

The operations of a dealer under one type, so that a run is a list of them, and what the parts of
an operation leave alone.
-/

namespace Wamp

namespace Dealer

inductive Operation where
  | attach (session : Session)
  | detach (session : Id)
  | receive (ambient : Ambient) (session : Id) (message : Message)
  | disclose (on : Bool)

/-- Performs an operation; the answer is what has to be delivered. -/
def perform (dealer : Dealer) : Operation → Reply (List Routed)
  | .attach session =>
    let outcome := dealer.addSession session
    { outcome with answer := outcome.answer.map fun () => [] }
  | .detach session =>
    let outcome := dealer.removeSession session
    { outcome with answer := outcome.answer.map fun () => [] }
  | .receive ambient session message => dealer.receive ambient session message
  | .disclose on => .granted (dealer.setDisclosure on) []

/-- The invocation identifiers that a run of a new dealer draws. -/
def drawnIds (operations : List Operation) : List Id :=
  Run.drawn perform Dealer.ids {} operations

theorem isAttached_iff {dealer : Dealer} {session : Id} :
    dealer.isAttached session = true ↔
      ∃ details, dealer.sessions[session]? = some details := by
  unfold isAttached
  rw [Std.ExtTreeMap.contains_eq_isSome_getElem?, Option.isSome_iff_exists]

theorem not_isAttached_iff {dealer : Dealer} {session : Id} :
    ¬ dealer.isAttached session = true ↔ dealer.sessions[session]? = none := by
  rw [isAttached_iff, ← Option.isSome_iff_exists, Bool.not_eq_true, Option.isSome_eq_false_iff,
    Option.isNone_iff_eq_none]

/-! ## What the parts of an operation leave alone -/

theorem removeCallee_eq (dealer : Dealer) (session registration : Id) :
    ∃ registrations directory, (dealer.removeCallee session registration).1 =
      { dealer with registrations, directory } := by
  unfold removeCallee
  cases dealer.registrations[registration]? with
  | none => exact ⟨_, _, rfl⟩
  | some found =>
      simp only
      split
      next =>
        split <;> exact ⟨_, _, rfl⟩
      next => exact ⟨_, _, rfl⟩

theorem removeCalleeFromAll_eq (dealer : Dealer) (session : Id) (registrations : List Id) :
    ∃ left directory, (dealer.removeCalleeFromAll session registrations).1 =
      { dealer with registrations := left, directory } := by
  induction registrations generalizing dealer with
  | nil => exact ⟨_, _, rfl⟩
  | cons registration rest ih =>
      obtain ⟨once, directory, hfirst⟩ := dealer.removeCallee_eq session registration
      obtain ⟨left, shrunk, hrest⟩ := ih (dealer.removeCallee session registration).1
      refine ⟨left, shrunk, ?_⟩
      simp only [removeCalleeFromAll]
      rw [hrest, hfirst]

theorem dropPending_eq (dealer : Dealer) (invocation : Id) :
    ∃ left invocationOf, dealer.dropPending invocation =
      { dealer with pending := left, invocationOf } := by
  unfold dropPending
  cases dealer.pending[invocation]? with
  | none => exact ⟨_, _, rfl⟩
  | some found => exact ⟨_, _, rfl⟩

@[simp] theorem sessions_dropPending (dealer : Dealer) (invocation : Id) :
    (dealer.dropPending invocation).sessions = dealer.sessions := by
  obtain ⟨_, _, hdropped⟩ := dealer.dropPending_eq invocation
  rw [hdropped]

@[simp] theorem registrations_dropPending (dealer : Dealer) (invocation : Id) :
    (dealer.dropPending invocation).registrations = dealer.registrations := by
  obtain ⟨_, _, hdropped⟩ := dealer.dropPending_eq invocation
  rw [hdropped]

@[simp] theorem ids_dropPending (dealer : Dealer) (invocation : Id) :
    (dealer.dropPending invocation).ids = dealer.ids := by
  obtain ⟨_, _, hdropped⟩ := dealer.dropPending_eq invocation
  rw [hdropped]

theorem foldl_dropPending_eq (dealer : Dealer) (invocations : List Id) :
    ∃ left invocationOf, invocations.foldl dropPending dealer =
      { dealer with pending := left, invocationOf } := by
  induction invocations generalizing dealer with
  | nil => exact ⟨_, _, rfl⟩
  | cons invocation rest ih =>
      obtain ⟨once, index, hfirst⟩ := dealer.dropPending_eq invocation
      obtain ⟨left, shrunk, hrest⟩ := ih (dealer.dropPending invocation)
      refine ⟨left, shrunk, ?_⟩
      rw [List.foldl_cons, hrest, hfirst]

/-- The invocation that a call supersedes is gone when the call is put in flight anew. -/
def superseded (dealer : Dealer) (key : CallKey) : Dealer :=
  match dealer.invocationOf[key]? with
  | none => dealer
  | some invocation => dealer.dropPending invocation

theorem superseded_eq (dealer : Dealer) (key : CallKey) :
    ∃ left invocationOf, dealer.superseded key =
      { dealer with pending := left, invocationOf } := by
  unfold superseded
  cases dealer.invocationOf[key]? with
  | none => exact ⟨_, _, rfl⟩
  | some invocation => exact dealer.dropPending_eq invocation

theorem launch_eq (dealer : Dealer) (pending : Pending) :
    dealer.launch pending =
      (dealer.ids.next.1,
        { dealer with
          ids := dealer.ids.next.2
          pending := (dealer.superseded pending.key).pending.insert dealer.ids.next.1 pending
          invocationOf :=
            (dealer.superseded pending.key).invocationOf.insert pending.key
              dealer.ids.next.1 }) := by
  obtain ⟨left, invocationOf, hcleared⟩ := dealer.superseded_eq pending.key
  have hlaunch : dealer.launch pending =
      ((dealer.superseded pending.key).ids.next.1,
        { dealer.superseded pending.key with
          ids := (dealer.superseded pending.key).ids.next.2
          pending := (dealer.superseded pending.key).pending.insert
            (dealer.superseded pending.key).ids.next.1 pending
          invocationOf := (dealer.superseded pending.key).invocationOf.insert pending.key
            (dealer.superseded pending.key).ids.next.1 }) := rfl
  rw [hlaunch, hcleared]

theorem ids_launch (dealer : Dealer) (pending : Pending) :
    (dealer.launch pending).2.ids = dealer.ids.next.2 := by
  rw [launch_eq]

theorem getElem?_launch_self (dealer : Dealer) (pending : Pending) :
    (dealer.launch pending).2.pending[dealer.ids.next.1]? = some pending := by
  rw [launch_eq, Std.ExtTreeMap.getElem?_insert_self]

end Dealer

end Wamp
