import Wamp.Proofs.Dealer.Announcing
import Wamp.Proofs.Table

/-!
# Calls in flight

A dealer keeps its invocations in flight by their identifiers, and an index that finds the
invocation of a call by the caller and its request.  The two tables are inverse to each other, and
whoever waits for a reply is attached.  Both hold as long as no identifier is drawn that is still
in flight, and hence in every run that does not use up the counter.
-/

namespace Wamp.Dealer

/-- The index finds exactly the invocations in flight. -/
def Indexed (dealer : Dealer) : Prop :=
  ∀ (key : CallKey) (invocation : Id), dealer.invocationOf[key]? = some invocation ↔
    ∃ pending, dealer.pending[invocation]? = some pending ∧ pending.key = key

structure Linked (dealer : Dealer) : Prop where
  indexed : dealer.Indexed
  caller_attached : ∀ (invocation : Id) (pending : Pending),
    dealer.pending[invocation]? = some pending → dealer.isAttached pending.caller = true
  session_id : ∀ (id : Id) (session : Session), dealer.sessions[id]? = some session →
    session.id = id

/-- No identifier in flight is one that the counter has yet to reach. -/
def Counted (dealer : Dealer) : Prop :=
  ∀ invocation, invocation ∈ dealer.pending →
    0 < invocation ∧ invocation ≤ dealer.ids.last.toNat

def HasFreshId (dealer : Dealer) : Prop :=
  dealer.ids.next.1 ∉ dealer.pending

theorem linked_empty : ({} : Dealer).Linked where
  indexed := by simp [Indexed]
  caller_attached := by simp
  session_id := by simp

theorem counted_empty : ({} : Dealer).Counted := by
  simp [Counted]

theorem Counted.hasFreshId {dealer : Dealer} (hcounted : dealer.Counted)
    (hroom : dealer.ids.last.toNat < maxId.toNat) : dealer.HasFreshId := by
  intro hmem
  have hle : dealer.ids.next.2.last.toNat ≤ dealer.ids.last.toNat := (hcounted _ hmem).2
  rw [IdCounter.last_next hroom] at hle
  omega

/-! ## The index -/

namespace Indexed

variable {dealer : Dealer}

theorem getElem?_key (hindexed : dealer.Indexed) {invocation : Id} {found : Pending}
    (hfound : dealer.pending[invocation]? = some found) :
    dealer.invocationOf[found.key]? = some invocation :=
  (hindexed found.key invocation).mpr ⟨found, hfound, rfl⟩

theorem key_of_invocationOf (hindexed : dealer.Indexed) {key : CallKey} {invocation : Id}
    {pending : Pending} (hindex : dealer.invocationOf[key]? = some invocation)
    (hpending : dealer.pending[invocation]? = some pending) : pending.key = key := by
  obtain ⟨found, hfound, hkey⟩ := (hindexed key invocation).mp hindex
  rw [hfound, Option.some.injEq] at hpending
  rwa [← hpending]

/-- No two invocations in flight belong to one call. -/
theorem unique (hindexed : dealer.Indexed) {first second : Id} {left right : Pending}
    (hleft : dealer.pending[first]? = some left) (hright : dealer.pending[second]? = some right)
    (hkey : left.key = right.key) : first = second := by
  have hfirst := hindexed.getElem?_key hleft
  rw [hkey, hindexed.getElem?_key hright, Option.some.injEq] at hfirst
  exact hfirst.symm

/-- An invocation that is dropped takes its entry of the index along. -/
theorem invocationOf_dropPending (hindexed : dealer.Indexed) {invocation : Id} {found : Pending}
    (hfound : dealer.pending[invocation]? = some found) :
    (dealer.dropPending invocation).invocationOf = dealer.invocationOf.erase found.key := by
  unfold Dealer.dropPending
  simp only [hfound, if_pos (hindexed.getElem?_key hfound)]

theorem dropPending (hindexed : dealer.Indexed) (invocation : Id) :
    (dealer.dropPending invocation).Indexed := by
  cases hfound : dealer.pending[invocation]? with
  | none =>
      unfold Dealer.dropPending
      simp only [hfound]
      exact hindexed
  | some found =>
      intro key other
      rw [hindexed.invocationOf_dropPending hfound, pending_dropPending,
        Std.ExtTreeMap.getElem?_erase, Std.ExtTreeMap.getElem?_erase]
      simp only [Std.LawfulEqCmp.compare_eq_iff_eq]
      by_cases hkey : found.key = key
      · subst hkey
        rw [if_pos rfl]
        simp only [reduceCtorEq, false_iff, not_exists, not_and]
        intro pending hpending hsame
        split at hpending
        next => contradiction
        next hne => exact hne (hindexed.unique hfound hpending hsame.symm)
      · rw [if_neg hkey, hindexed key other]
        by_cases hsame : invocation = other
        · subst hsame
          simp [hfound, hkey]
        · simp [hsame]

/-- What is left in flight when a call gives way to its next invocation. -/
theorem getElem?_superseded (hindexed : dealer.Indexed) (key : CallKey) (invocation : Id)
    (pending : Pending) :
    (dealer.superseded key).pending[invocation]? = some pending ↔
      dealer.pending[invocation]? = some pending ∧ pending.key ≠ key := by
  unfold superseded
  cases hindex : dealer.invocationOf[key]? with
  | none =>
      refine ⟨fun hpending => ⟨hpending, ?_⟩, And.left⟩
      rintro rfl
      rw [hindexed.getElem?_key hpending] at hindex
      contradiction
  | some superseded =>
      obtain ⟨found, hfound, rfl⟩ := (hindexed key superseded).mp hindex
      simp only [pending_dropPending, Std.ExtTreeMap.getElem?_erase,
        Std.LawfulEqCmp.compare_eq_iff_eq]
      constructor
      · intro hpending
        split at hpending
        next => contradiction
        next hne => exact ⟨hpending, fun hsame => hne (hindexed.unique hfound hpending hsame.symm)⟩
      · rintro ⟨hpending, hne⟩
        rw [if_neg, hpending]
        rintro rfl
        rw [hfound, Option.some.injEq] at hpending
        exact hne (by rw [hpending])

theorem superseded (hindexed : dealer.Indexed) (key : CallKey) :
    (dealer.superseded key).Indexed := by
  unfold Dealer.superseded
  cases dealer.invocationOf[key]? with
  | none => exact hindexed
  | some invocation => exact hindexed.dropPending invocation

theorem launch (hindexed : dealer.Indexed) (hfresh : dealer.HasFreshId) (pending : Pending) :
    (dealer.launch pending).2.Indexed := by
  -- Without a fresh identifier the new invocation could take the place of another call's.
  have hcleared := hindexed.getElem?_superseded pending.key
  have hnone : (dealer.superseded pending.key).pending[dealer.ids.next.1]? = none := by
    cases hfound : (dealer.superseded pending.key).pending[dealer.ids.next.1]? with
    | none => rfl
    | some found =>
        have hold := ((hcleared _ _).mp hfound).1
        rw [Std.ExtTreeMap.getElem?_eq_none hfresh] at hold
        contradiction
  intro key other
  rw [launch_eq]
  simp only [Std.ExtTreeMap.getElem?_insert, Std.LawfulEqCmp.compare_eq_iff_eq]
  by_cases hkey : pending.key = key
  · subst hkey
    rw [if_pos rfl]
    by_cases hsame : dealer.ids.next.1 = other
    · simp [hsame]
    · simp only [Option.some.injEq, hsame, false_iff, not_exists, not_and]
      intro found hfound
      exact ((hcleared _ _).mp hfound).2
  · rw [if_neg hkey, hindexed.superseded pending.key key other]
    by_cases hsame : dealer.ids.next.1 = other
    · subst hsame
      simp [hnone, hkey]
    · simp [hsame]

theorem markCanceled (hindexed : dealer.Indexed) (invocation : Id) :
    (dealer.markCanceled invocation).Indexed := by
  intro key other
  unfold Dealer.markCanceled
  simp only [Std.ExtTreeMap.getElem?_modify, Std.LawfulEqCmp.compare_eq_iff_eq]
  rw [hindexed key other]
  by_cases hsame : invocation = other
  · subst hsame
    cases hfound : dealer.pending[invocation]? with
    | none => simp
    | some found => simp [Pending.key]
  · simp [hsame]

theorem foldl_dropPending (hindexed : dealer.Indexed) (invocations : List Id) :
    (invocations.foldl Dealer.dropPending dealer).Indexed := by
  induction invocations generalizing dealer with
  | nil => exact hindexed
  | cons invocation rest ih => exact ih (hindexed.dropPending invocation)

end Indexed

/-! ## Forgetting several invocations -/

theorem getElem?_foldl_dropPending (dealer : Dealer) (invocations : List Id) (invocation : Id) :
    (invocations.foldl dropPending dealer).pending[invocation]? =
      if invocation ∈ invocations then none else dealer.pending[invocation]? := by
  induction invocations generalizing dealer with
  | nil => simp
  | cons first rest ih =>
      rw [List.foldl_cons, ih, pending_dropPending, Std.ExtTreeMap.getElem?_erase]
      by_cases hsame : first = invocation
      · simp [hsame]
      · simp [hsame, Ne.symm hsame]

/-- The index loses the call of a forgotten invocation, if it is this invocation that it finds. -/
theorem getElem?_invocationOf_dropPending (dealer : Dealer) (invocation : Id) (key : CallKey) :
    (dealer.dropPending invocation).invocationOf[key]? =
      if dealer.invocationOf[key]? = some invocation ∧
          (dealer.pending[invocation]?).map Pending.key = some key then none
      else dealer.invocationOf[key]? := by
  unfold dropPending
  cases dealer.pending[invocation]? with
  | none => simp
  | some found =>
      simp only [Option.map_some, Option.some.injEq]
      by_cases hkey : found.key = key
      · subst hkey
        split <;> simp_all
      · split <;> simp [hkey, Std.ExtTreeMap.getElem?_erase]

/-- In which order two invocations are forgotten makes no difference, not even where the index
finds only one of them by a call that they share. -/
theorem dropPending_comm (dealer : Dealer) (first second : Id) :
    (dealer.dropPending first).dropPending second =
      (dealer.dropPending second).dropPending first := by
  by_cases hne : first = second
  · rw [hne]
  · have hpending : ((dealer.dropPending first).dropPending second).pending =
        ((dealer.dropPending second).dropPending first).pending := by
      simp only [pending_dropPending]
      exact Table.erase_comm dealer.pending first second
    have hindex : ((dealer.dropPending first).dropPending second).invocationOf =
        ((dealer.dropPending second).dropPending first).invocationOf := by
      apply Std.ExtTreeMap.ext_getElem?
      intro key
      simp only [getElem?_invocationOf_dropPending, pending_dropPending,
        Std.ExtTreeMap.getElem?_erase, Std.LawfulEqCmp.compare_eq_iff_eq, hne, Ne.symm hne,
        if_false]
      split <;> split <;> simp_all
    obtain ⟨_, _, hforth⟩ := dealer.foldl_dropPending_eq [first, second]
    obtain ⟨_, _, hback⟩ := dealer.foldl_dropPending_eq [second, first]
    simp only [List.foldl_cons, List.foldl_nil] at hforth hback
    rw [hforth, hback] at hpending hindex ⊢
    simp only at hpending hindex
    rw [hpending, hindex]

theorem foldl_dropPending_perm (dealer : Dealer) {invocations permuted : List Id}
    (hperm : invocations.Perm permuted) :
    invocations.foldl dropPending dealer = permuted.foldl dropPending dealer :=
  hperm.foldl_eq' (fun first _ second _ dealer => dealer.dropPending_comm first second) dealer

theorem mem_pendingOf {dealer : Dealer} {caller invocation : Id} :
    invocation ∈ dealer.pendingOf caller ↔
      ∃ pending, dealer.pending[invocation]? = some pending ∧ pending.caller = caller := by
  simp [pendingOf, Std.ExtTreeMap.mem_toList_iff_getElem?_eq_some]

/-! ## The invariant after each operation -/

namespace Indexed

variable {dealer : Dealer}

theorem congr (hindexed : dealer.Indexed) {other : Dealer}
    (hpending : other.pending = dealer.pending)
    (hindex : other.invocationOf = dealer.invocationOf) : other.Indexed := by
  unfold Indexed
  rw [hindex, hpending]
  exact hindexed

theorem detach (hindexed : dealer.Indexed) (session : Id) :
    (((dealer.withdrawn session).pendingOf session).foldl Dealer.dropPending
      (dealer.withdrawn session)).Indexed := by
  obtain ⟨registrations, directory, hwithdrawn⟩ := dealer.withdrawn_eq session
  have hleft : (dealer.withdrawn session).Indexed := by
    rw [hwithdrawn]
    exact hindexed
  exact hleft.foldl_dropPending _

/-- An operation that draws an identifier which is not in flight keeps the tables inverse. -/
theorem perform (hindexed : dealer.Indexed) (operation : Operation)
    (hfresh : (dealer.perform operation).state.ids ≠ dealer.ids → dealer.HasFreshId) :
    (dealer.perform operation).state.Indexed := by
  revert hfresh
  apply perform_induction
    (fun state => (state.ids ≠ dealer.ids → dealer.HasFreshId) → state.Indexed)
    (fun _ => hindexed)
  intro state routed hserves hfresh
  have hdrawn : ∀ (starting : Dealer) (pending : Pending), starting.ids = dealer.ids →
      (starting.launch pending).2.ids ≠ dealer.ids := by
    intro starting pending hids
    rw [ids_launch, hids]
    exact IdCounter.snd_next_ne _
  cases hserves with
  | detached session => exact hindexed.detach session
  | dispatched ambient session request caller callee entry found position =>
      have hcommitted : (dealer.committed entry.value found position).Indexed := hindexed
      exact hcommitted.launch (hfresh (hdrawn _ _ rfl)) _
  | closed => exact hindexed.launch (hfresh (hdrawn dealer _ rfl)) _
  | unregistered ambient session request ids =>
      obtain ⟨_, _, hreleased⟩ := dealer.released_eq session ids request.registration
      rw [hreleased]
      exact hindexed.congr rfl rfl
  | killed ambient session request | finished ambient session request =>
      exact hindexed.dropPending request.request
  | failed ambient session reply => exact hindexed.dropPending reply.request
  | skipped ambient session request invocation | aborted ambient session request invocation =>
      exact hindexed.dropPending invocation
  | interrupted ambient session request invocation => exact hindexed.markCanceled invocation
  | _ => exact hindexed.congr rfl rfl

end Indexed

/-- Whoever waits for a reply is attached, and a session is kept under its own identifier. -/
structure Awaited (dealer : Dealer) : Prop where
  caller_attached : ∀ (invocation : Id) (pending : Pending),
    dealer.pending[invocation]? = some pending → dealer.isAttached pending.caller = true
  session_id : ∀ (id : Id) (session : Session), dealer.sessions[id]? = some session →
    session.id = id

namespace Awaited

variable {dealer : Dealer}

theorem congr (hawaited : dealer.Awaited) {other : Dealer}
    (hsessions : other.sessions = dealer.sessions) (hpending : other.pending = dealer.pending) :
    other.Awaited where
  caller_attached := by
    unfold isAttached
    rw [hsessions, hpending]
    exact hawaited.caller_attached
  session_id := by
    rw [hsessions]
    exact hawaited.session_id

theorem attach (hawaited : dealer.Awaited) (session : Session) (held : Holdings) :
    Awaited { dealer with sessions := dealer.sessions.insert session.id session, held } where
  caller_attached invocation pending hpending := by
    have hattached := hawaited.caller_attached invocation pending hpending
    simp only [isAttached] at hattached
    simp [isAttached, hattached]
  session_id := Table.forall_insert hawaited.session_id rfl

theorem detach (hawaited : dealer.Awaited) (session : Id) :
    Awaited (((dealer.withdrawn session).pendingOf session).foldl Dealer.dropPending
      (dealer.withdrawn session)) := by
  obtain ⟨registrations, directory, hwithdrawn⟩ := dealer.withdrawn_eq session
  obtain ⟨left, invocationOf, hleft⟩ := foldl_dropPending_eq (dealer.withdrawn session)
    ((dealer.withdrawn session).pendingOf session)
  have hsessions : (((dealer.withdrawn session).pendingOf session).foldl Dealer.dropPending
      (dealer.withdrawn session)).sessions = dealer.sessions.erase session := by
    rw [hleft, hwithdrawn]
  have hpending : (dealer.withdrawn session).pending = dealer.pending := by
    rw [hwithdrawn]
  constructor
  · intro invocation pending hfound
    rw [getElem?_foldl_dropPending] at hfound
    split at hfound
    next => contradiction
    next hkept =>
      have hother : session ≠ pending.caller := fun hsame =>
        hkept (mem_pendingOf.mpr ⟨pending, hfound, hsame.symm⟩)
      rw [hpending] at hfound
      have hattached := hawaited.caller_attached invocation pending hfound
      unfold isAttached at hattached ⊢
      rw [hsessions]
      simp [hother, hattached]
  · rw [hsessions]
    exact Table.forall_erase hawaited.session_id session

theorem dropPending (hawaited : dealer.Awaited) (invocation : Id) :
    (dealer.dropPending invocation).Awaited := by
  obtain ⟨left, invocationOf, hleft⟩ := dealer.dropPending_eq invocation
  have hsessions : (dealer.dropPending invocation).sessions = dealer.sessions := by
    rw [hleft]
  constructor
  · unfold isAttached
    rw [pending_dropPending, hsessions]
    exact Table.forall_erase hawaited.caller_attached invocation
  · rw [hsessions]
    exact hawaited.session_id

theorem superseded (hawaited : dealer.Awaited) (key : CallKey) :
    (dealer.superseded key).Awaited := by
  unfold Dealer.superseded
  cases dealer.invocationOf[key]? with
  | none => exact hawaited
  | some invocation => exact hawaited.dropPending invocation

/-- Unlike the index, this does not depend on the identifier that is drawn. -/
theorem launch (hawaited : dealer.Awaited) {pending : Pending}
    (hcaller : dealer.isAttached pending.caller = true) :
    (dealer.launch pending).2.Awaited := by
  have hcleared := (hawaited.superseded pending.key).caller_attached
  obtain ⟨left, invocationOf, hleft⟩ := dealer.superseded_eq pending.key
  rw [launch_eq]
  refine ⟨Table.forall_insert ?_ hcaller, hawaited.session_id⟩
  rw [hleft] at hcleared ⊢
  exact hcleared

theorem markCanceled (hawaited : dealer.Awaited) (invocation : Id) :
    (dealer.markCanceled invocation).Awaited where
  caller_attached other pending hpending := by
    unfold Dealer.markCanceled at hpending
    simp only [Std.ExtTreeMap.getElem?_modify] at hpending
    split at hpending
    next hsame =>
      obtain ⟨found, hfound, rfl⟩ := Option.map_eq_some_iff.mp hpending
      exact hawaited.caller_attached invocation found hfound
    next => exact hawaited.caller_attached other pending hpending
  session_id := hawaited.session_id

theorem perform (hawaited : dealer.Awaited) (operation : Operation) :
    (dealer.perform operation).state.Awaited := by
  apply perform_induction Awaited hawaited
  intro state routed hserves
  cases hserves with
  | attached session => exact hawaited.attach session _
  | detached session => exact hawaited.detach session
  | dispatched ambient session request caller callee entry found position route hcaller =>
      have hcommitted : (dealer.committed entry.value found position).Awaited :=
        hawaited.congr rfl rfl
      exact hcommitted.launch (isAttached_iff.mpr ⟨_, hcaller⟩)
  | closed ambient session request caller callee invocation pending hcaller =>
      exact hawaited.launch (isAttached_iff.mpr ⟨_, hcaller⟩)
  | unregistered ambient session request ids =>
      obtain ⟨_, _, hreleased⟩ := dealer.released_eq session ids request.registration
      rw [hreleased]
      exact hawaited.congr rfl rfl
  | killed ambient session request | finished ambient session request =>
      exact hawaited.dropPending request.request
  | failed ambient session reply => exact hawaited.dropPending reply.request
  | skipped ambient session request invocation | aborted ambient session request invocation =>
      exact hawaited.dropPending invocation
  | interrupted ambient session request invocation => exact hawaited.markCanceled invocation
  | _ => exact hawaited.congr rfl rfl

end Awaited

theorem awaited_final (operations : List Operation) :
    (Run.final perform {} operations).Awaited :=
  Run.final_induction Awaited (fun _ operation hawaited => hawaited.perform operation)
    ⟨by simp, by simp⟩ operations

theorem Linked.awaited {dealer : Dealer} (hlinked : dealer.Linked) : dealer.Awaited :=
  ⟨hlinked.caller_attached, hlinked.session_id⟩

theorem Linked.perform {dealer : Dealer} (hlinked : dealer.Linked) (operation : Operation)
    (hfresh : (dealer.perform operation).state.ids ≠ dealer.ids → dealer.HasFreshId) :
    (dealer.perform operation).state.Linked := by
  obtain ⟨hattached, hsessions⟩ := hlinked.awaited.perform operation
  exact ⟨hlinked.indexed.perform operation hfresh, hattached, hsessions⟩

/-- What is in flight afterwards was in flight before, or has been put there under the identifier
drawn for it. -/
theorem Indexed.mem_pending_perform {dealer : Dealer} (hindexed : dealer.Indexed)
    (operation : Operation) (invocation : Id)
    (hmem : invocation ∈ (dealer.perform operation).state.pending) :
    invocation ∈ dealer.pending ∨
      (invocation = dealer.ids.next.1 ∧
        (dealer.perform operation).state.ids = dealer.ids.next.2) := by
  have hdropped : ∀ dropped, invocation ∈ (dealer.dropPending dropped).pending →
      invocation ∈ dealer.pending := by
    intro dropped hkept
    rw [pending_dropPending, Std.ExtTreeMap.mem_erase] at hkept
    exact hkept.2
  have hlaunched : ∀ (starting : Dealer) (pending : Pending), starting.Indexed →
      starting.pending = dealer.pending → starting.ids = dealer.ids →
      invocation ∈ (starting.launch pending).2.pending →
      invocation ∈ dealer.pending ∨
        (invocation = dealer.ids.next.1 ∧ (starting.launch pending).2.ids = dealer.ids.next.2) := by
    intro starting pending hstarting hpending hids hkept
    rw [launch_eq] at hkept
    simp only [Std.ExtTreeMap.mem_insert, Std.LawfulEqCmp.compare_eq_iff_eq] at hkept
    rcases hkept with hnew | hold
    · right
      rw [ids_launch, ← hids]
      exact ⟨hnew.symm, rfl⟩
    · left
      obtain ⟨found, hfound⟩ := Table.mem_iff_exists.mp hold
      rw [← hpending]
      exact Table.mem_of_getElem? ((hstarting.getElem?_superseded _ _ _).mp hfound).1
  revert hmem
  apply perform_induction (fun state => invocation ∈ state.pending →
    invocation ∈ dealer.pending ∨
      (invocation = dealer.ids.next.1 ∧ state.ids = dealer.ids.next.2)) Or.inl
  intro state routed hserves hmem
  cases hserves with
  | detached session =>
      left
      obtain ⟨_, _, hwithdrawn⟩ := dealer.withdrawn_eq session
      rw [Std.ExtTreeMap.mem_iff_isSome_getElem?, getElem?_foldl_dropPending] at hmem
      split at hmem
      next => simp at hmem
      next => rwa [← Std.ExtTreeMap.mem_iff_isSome_getElem?, hwithdrawn] at hmem
  | dispatched ambient session request caller callee entry found position =>
      exact hlaunched (dealer.committed entry.value found position) _ hindexed rfl rfl hmem
  | closed => exact hlaunched dealer _ hindexed rfl rfl hmem
  | unregistered ambient session request ids =>
      left
      obtain ⟨_, _, hreleased⟩ := dealer.released_eq session ids request.registration
      rwa [hreleased] at hmem
  | killed ambient session request | finished ambient session request =>
      exact Or.inl (hdropped _ hmem)
  | failed | skipped | aborted => exact Or.inl (hdropped _ hmem)
  | interrupted => exact Or.inl (Std.ExtTreeMap.mem_modify.mp hmem)
  | _ => exact Or.inl hmem

theorem Counted.perform {dealer : Dealer} (hcounted : dealer.Counted) (hindexed : dealer.Indexed)
    (hroom : dealer.ids.last.toNat < maxId.toNat) (operation : Operation) :
    (dealer.perform operation).state.Counted := by
  have hnext := IdCounter.last_next hroom
  intro invocation hmem
  rcases hindexed.mem_pending_perform operation invocation hmem with hold | ⟨rfl, hids⟩
  · obtain ⟨hpos, hle⟩ := hcounted invocation hold
    refine ⟨hpos, Nat.le_trans hle ?_⟩
    rcases countsUp dealer operation with hkept | hdrawn
    · simp [hkept]
    · rw [hdrawn, hnext]
      exact Nat.le_succ _
  · have hpos : 0 < dealer.ids.next.2.last.toNat := by omega
    rw [hids]
    exact ⟨hpos, Nat.le_refl _⟩

theorem inFlight_final (operations : List Operation)
    (hdrawn : (drawnIds operations).length < maxId.toNat) :
    (Run.final perform {} operations).Linked ∧ (Run.final perform {} operations).Counted := by
  apply Run.final_induction_of_drawn (fun dealer => dealer.Linked ∧ dealer.Counted) countsUp _
    ⟨linked_empty, counted_empty⟩ operations (by simpa [drawnIds] using hdrawn)
  rintro dealer operation hroom ⟨hlinked, hcounted⟩
  exact ⟨hlinked.perform operation fun _ => hcounted.hasFreshId hroom,
    hcounted.perform hlinked.indexed hroom operation⟩

/-! ## Callers that are gone -/

theorem pendingFor?_eq_some {dealer : Dealer} {callee invocation : Id} {pending : Pending} :
    dealer.pendingFor? callee invocation = some pending ↔
      dealer.pending[invocation]? = some pending ∧ pending.callee = callee := by
  unfold pendingFor?
  cases dealer.pending[invocation]? with
  | none => simp
  | some found =>
      simp only [Option.ite_none_right_eq_some, Option.some.injEq]
      constructor
      · rintro ⟨hcallee, rfl⟩
        exact ⟨rfl, hcallee⟩
      · rintro ⟨rfl, hcallee⟩
        exact ⟨hcallee, rfl⟩

theorem Linked.answer_ne_callerGone {dealer : Dealer} (hlinked : dealer.Linked)
    (operation : Operation) (caller : Id) :
    (dealer.perform operation).answer ≠ .error (.callerGone caller) := by
  intro hanswer
  have hrefuses := (refuses_of_refused hanswer).1
  cases hrefuses with
  | yieldsToGone ambient session request pending hpending hcaller =>
      have hattached := hlinked.caller_attached _ _ (pendingFor?_eq_some.mp hpending).1
      obtain ⟨details, hdetails⟩ := isAttached_iff.mp hattached
      rw [hcaller] at hdetails
      contradiction
  | failsGone ambient session reply pending hpending hcaller =>
      have hattached := hlinked.caller_attached _ _ (pendingFor?_eq_some.mp hpending).1
      rw [hcaller] at hattached
      contradiction

end Wamp.Dealer

namespace Wamp.AnnouncingDealer

/-- However a dealer and its consumers are used, the tables of the calls in flight agree as long
as fewer than `2 ^ 53` invocation identifiers are drawn. -/
theorem inFlight_tables_of_run (board : Board) (operations : List Operation)
    (hdrawn : (drawnIds board operations).length < maxId.toNat) :
    let announcing := Run.final perform { board } operations
    (∀ (invocation : Id) (pending : Pending),
      announcing.dealer.pending[invocation]? = some pending →
      announcing.dealer.invocationOf[pending.key]? = some invocation ∧
        announcing.dealer.isAttached pending.caller = true ∧
        invocation ∈ drawnIds board operations) ∧
    (∀ (key : CallKey) (invocation : Id),
      announcing.dealer.invocationOf[key]? = some invocation →
      ∃ pending, announcing.dealer.pending[invocation]? = some pending ∧ pending.key = key) ∧
    (∀ (first second : Id) (left right : Pending),
      announcing.dealer.pending[first]? = some left →
      announcing.dealer.pending[second]? = some right → left.key = right.key →
      first = second) ∧
    ∀ operation caller, (announcing.perform operation).answer ≠ .error (.callerGone caller) := by
  intro announcing
  have hdealer : announcing.dealer = Run.final Dealer.perform {} (served operations) :=
    dealer_final { board } operations
  rw [drawnIds_eq] at hdrawn ⊢
  obtain ⟨hlinked, hcounted⟩ := Dealer.inFlight_final (served operations) hdrawn
  rw [← hdealer] at hlinked hcounted
  refine ⟨?_, ?_, ?_, ?_⟩
  · intro invocation pending hpending
    refine ⟨hlinked.indexed.getElem?_key hpending,
      hlinked.caller_attached invocation pending hpending, ?_⟩
    have hpassed := hcounted invocation (Table.mem_of_getElem? hpending)
    rw [hdealer] at hpassed
    have hroom : ({} : Dealer).ids.last.toNat + (Dealer.drawnIds (served operations)).length ≤
        maxId.toNat := by
      simpa using Nat.le_of_lt hdrawn
    exact (Run.mem_drawn_iff Dealer.countsUp {} (served operations) hroom invocation).mpr hpassed
  · exact fun key invocation => (hlinked.indexed key invocation).mp
  · exact fun first second left right => hlinked.indexed.unique
  · intro operation caller
    cases operation with
    | serve operation => exact hlinked.answer_ne_callerGone operation caller
    | enable | take consumer | drop consumer => simp [perform]

/-- A call is repeated before its first invocation is answered. -/
def supersededCall : List Operation :=
  let member (id : Id) : Session :=
    { id, realm := "realm1", authid := "", authrole := "", staticSerializer := false }
  let ambient : Ambient := { drawnId := 7, drawnIndex := 0, now := "" }
  let call : Call := { request := 1, options := ∅, procedure := "com.sum" }
  [.enable, .serve (.attach (member 1)), .serve (.attach (member 2)),
    .serve (.receive ambient 1
      (.register { request := 1, options := ∅, procedure := "com.sum" })),
    .serve (.receive ambient 2 (.call call)), .serve (.disclose true),
    .serve (.receive ambient 2 (.call call)), .take 0]

theorem inFlight_tables_of_supersededCall :
    (drawnIds { queueSize := 4 } supersededCall).length < maxId.toNat ∧
      (Run.final perform { board := { queueSize := 4 } } supersededCall).dealer.pending.keys =
        [2] ∧
      ∀ operation caller,
        ((Run.final perform { board := { queueSize := 4 } } supersededCall).perform
          operation).answer ≠ .error (.callerGone caller) := by
  have hdrawn : drawnIds { queueSize := 4 } supersededCall = [1, 2] := by decide +kernel
  have hlength : (drawnIds { queueSize := 4 } supersededCall).length < maxId.toNat := by
    rw [hdrawn]
    decide
  have htables := inFlight_tables_of_run { queueSize := 4 } supersededCall hlength
  exact ⟨hlength, by decide +kernel, htables.2.2.2⟩

end Wamp.AnnouncingDealer
