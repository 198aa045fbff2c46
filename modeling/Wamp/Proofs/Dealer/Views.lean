import Wamp.Proofs.Dealer.Callees

/-!
# What can be asked of the registrations

The registrations are handed out by procedure and by match policy.  No view of them leaves a
registration out or adds one, every procedure in the directory can be called, and a call that
continues none never meets a callee that has gone.
-/

namespace Wamp.Dealer

/-! ## Collecting registrations under keys of their own -/

section Collected

variable {Key : Type} [DecidableEq Key] [Ord Key] [Std.TransOrd Key] [Std.LawfulEqOrd Key]

/-- Collects the registrations that are kept, each under its key. -/
def collected (keyOf : Registration → Key) (keeps : Registration → Bool)
    (found : Std.ExtTreeMap Key Registration) (entry : Id × Registration) :
    Std.ExtTreeMap Key Registration :=
  if keeps entry.2 then found.insert (keyOf entry.2) entry.2 else found

variable {keyOf : Registration → Key} {keeps : Registration → Bool}

theorem getElem?_collected (found : Std.ExtTreeMap Key Registration) (entry : Id × Registration)
    (key : Key) :
    (collected keyOf keeps found entry)[key]? =
      if keeps entry.2 = true ∧ keyOf entry.2 = key then some entry.2 else found[key]? := by
  unfold collected
  cases hkeeps : keeps entry.2 with
  | true => simp [Std.ExtTreeMap.getElem?_insert]
  | false => simp

theorem mem_of_getElem?_foldl (entries : List (Id × Registration))
    (found : Std.ExtTreeMap Key Registration) {key : Key} {registration : Registration}
    (hcollected : (entries.foldl (collected keyOf keeps) found)[key]? = some registration) :
    found[key]? = some registration ∨
      ∃ entry ∈ entries, entry.2 = registration ∧ keeps registration = true ∧
        keyOf registration = key := by
  induction entries generalizing found with
  | nil => exact Or.inl hcollected
  | cons first rest ih =>
      rcases ih (collected keyOf keeps found first) hcollected with hfound | hrest
      · rw [getElem?_collected] at hfound
        split at hfound
        next hfirst =>
          rw [Option.some.injEq] at hfound
          subst hfound
          exact Or.inr ⟨first, List.mem_cons_self, rfl, hfirst⟩
        next => exact Or.inl hfound
      · obtain ⟨entry, hmem, hentry⟩ := hrest
        exact Or.inr ⟨entry, List.mem_cons_of_mem _ hmem, hentry⟩

/-- A registration is found if no other one has its key. -/
theorem getElem?_foldl_of_mem (entries : List (Id × Registration))
    (found : Std.ExtTreeMap Key Registration) {key : Key} {registration : Registration}
    (hsole : ∀ entry ∈ entries, keeps entry.2 = true → keyOf entry.2 = key →
      entry.2 = registration)
    (hmem : found[key]? = some registration ∨
      ∃ entry ∈ entries, keeps entry.2 = true ∧ keyOf entry.2 = key) :
    (entries.foldl (collected keyOf keeps) found)[key]? = some registration := by
  induction entries generalizing found with
  | nil => simpa using hmem
  | cons first rest ih =>
      apply ih (collected keyOf keeps found first)
        (fun entry hentry => hsole entry (List.mem_cons_of_mem _ hentry))
      rw [getElem?_collected]
      split
      next hfirst => exact Or.inl (by rw [hsole first List.mem_cons_self hfirst.1 hfirst.2])
      next hfirst =>
        rcases hmem with hfound | ⟨entry, hentry, hkept⟩
        · exact Or.inl hfound
        · rcases List.mem_cons.mp hentry with rfl | hrest
          · exact absurd hkept hfirst
          · exact Or.inr ⟨entry, hrest, hkept⟩

end Collected

/-! ## The views -/

namespace Tables

variable {dealer : Dealer}

theorem eq_of_procedure (htables : dealer.Tables) {first second : Id} {left right : Registration}
    (hleft : dealer.registrations[first]? = some left)
    (hright : dealer.registrations[second]? = some right)
    (hprocedure : left.procedure = right.procedure) : left = right := by
  have hname := named_eq_some hleft
  rw [hprocedure] at hname
  have hsame := htables.lists.unique hname (named_eq_some hright)
  subst hsame
  rw [hleft, Option.some.injEq] at hright
  exact hright

/-- Every registration is found by its procedure, and nothing else is. -/
theorem registrationsByProcedure_iff (htables : dealer.Tables) (procedure : String)
    (registration : Registration) :
    dealer.registrationsByProcedure[procedure]? = some registration ↔
      dealer.registrations[registration.id]? = some registration ∧
        registration.procedure = procedure := by
  have hview : dealer.registrationsByProcedure =
      dealer.registrations.toList.foldl
        (collected Registration.procedure fun _ => true) ∅ := by
    unfold registrationsByProcedure
    rw [Std.ExtTreeMap.foldl_eq_foldl_toList]
    rfl
  rw [hview]
  constructor
  · intro hfound
    rcases mem_of_getElem?_foldl _ _ hfound with hempty | ⟨entry, hmem, rfl, -, hprocedure⟩
    · simp at hempty
    · rw [Std.ExtTreeMap.mem_toList_iff_getElem?_eq_some] at hmem
      rw [htables.id_eq _ _ hmem]
      exact ⟨hmem, hprocedure⟩
  · rintro ⟨hfound, rfl⟩
    apply getElem?_foldl_of_mem
    · rintro ⟨id, other⟩ hmem - hprocedure
      rw [Std.ExtTreeMap.mem_toList_iff_getElem?_eq_some] at hmem
      exact htables.eq_of_procedure hmem hfound hprocedure
    · exact Or.inr ⟨(registration.id, registration),
        Std.ExtTreeMap.mem_toList_iff_getElem?_eq_some.mpr hfound, rfl, rfl⟩

/-- Every registration is in the view of its policy, under its identifier, and in no other. -/
theorem registrationsWith_iff (htables : dealer.Tables) (policy : MatchPolicy) (id : Id)
    (registration : Registration) :
    (dealer.registrationsWith policy)[id]? = some registration ↔
      dealer.registrations[id]? = some registration ∧ registration.policy = policy := by
  have hview : dealer.registrationsWith policy =
      dealer.registrations.toList.foldl
        (collected Registration.id fun registration =>
          decide (registration.policy = policy)) ∅ := by
    unfold registrationsWith
    rw [Std.ExtTreeMap.foldl_eq_foldl_toList]
    congr 1
    funext found entry
    simp [collected]
  rw [hview]
  constructor
  · intro hfound
    rcases mem_of_getElem?_foldl _ _ hfound with hempty | ⟨entry, hmem, rfl, hpolicy, rfl⟩
    · simp at hempty
    · rw [Std.ExtTreeMap.mem_toList_iff_getElem?_eq_some] at hmem
      rw [htables.id_eq _ _ hmem]
      exact ⟨hmem, of_decide_eq_true hpolicy⟩
  · rintro ⟨hfound, rfl⟩
    have hid := htables.id_eq id registration hfound
    apply getElem?_foldl_of_mem
    · rintro ⟨other, found⟩ hmem - hsame
      rw [Std.ExtTreeMap.mem_toList_iff_getElem?_eq_some] at hmem
      rw [← hsame, htables.id_eq _ _ hmem, hmem, Option.some.injEq] at hfound
      exact hfound
    · exact Or.inr ⟨(id, registration),
        Std.ExtTreeMap.mem_toList_iff_getElem?_eq_some.mpr hfound, by simp, hid⟩

theorem isLive_of_get? (htables : dealer.Tables) {procedure : String} {entry : Uri.Entry Id}
    (hentry : dealer.directory.get? procedure = some entry) :
    dealer.isLive entry.value = true := by
  have hname := (htables.lists.get?_iff procedure entry.policy entry.value).mp hentry
  obtain ⟨found, hfound, -⟩ := Option.map_eq_some_iff.mp hname
  have hserved := (htables.wellFormed _ found hfound).served
  simp [isLive, hfound, hserved]

theorem answer_ne_calleeGone (htables : dealer.Tables) (ambient : Ambient) (session : Id)
    (request : Call)
    (hclosed : dealer.openInvocation? { caller := session, request := request.request } = none)
    (callee : Id) :
    (dealer.perform (.receive ambient session (.call request))).answer ≠
      .error (.calleeGone callee) := by
  intro hanswer
  have hrefuses := (refuses_of_refused hanswer).1
  cases hrefuses with
  | chosenCalleeGone _ _ _ caller entry found position _ hcaller _ hentry hfound hpick hposition
      hgone =>
      have hserved : dealer.ServedBy callee entry.value :=
        ⟨found, hfound, List.mem_of_getElem? hposition⟩
      obtain ⟨details, hdetails⟩ := isAttached_iff.mp (htables.attached_of_servedBy hserved)
      rw [hgone] at hdetails
      contradiction
  | openCalleeGone _ _ _ caller invocation pending hcaller hopen =>
      rw [hclosed] at hopen
      contradiction

end Tables

end Wamp.Dealer

namespace Wamp.AnnouncingDealer

/-- However a dealer and its consumers are used, the tables of registrations agree, and whatever
is read from them follows: every callee is attached and joined by a request of its own, no view
loses a registration, and the calls that continue none find their callees. -/
theorem registration_tables_of_run (board : Board) (operations : List Operation) :
    let announcing := Run.final perform { board } operations
    announcing.dealer.Tables ∧
    (∀ session id, announcing.dealer.ServedBy session id →
      announcing.dealer.isAttached session = true) ∧
    (∀ (id session : Id) (registration : Registration),
      announcing.dealer.registrations[id]? = some registration →
      session ∈ registration.callees →
      Dealer.JoinedBy (served operations) session registration) ∧
    (∀ (procedure : String) (registration : Registration),
      announcing.dealer.registrationsByProcedure[procedure]? = some registration ↔
        announcing.dealer.registrations[registration.id]? = some registration ∧
          registration.procedure = procedure) ∧
    (∀ (policy : MatchPolicy) (id : Id) (registration : Registration),
      (announcing.dealer.registrationsWith policy)[id]? = some registration ↔
        announcing.dealer.registrations[id]? = some registration ∧
          registration.policy = policy) ∧
    (∀ procedure entry, announcing.dealer.directory.get? procedure = some entry →
      announcing.dealer.isLive entry.value = true) ∧
    ∀ (ambient : Ambient) (session : Id) (request : Call) (callee : Id),
      announcing.dealer.openInvocation? { caller := session, request := request.request } =
        none →
      (announcing.receive ambient session (.call request)).answer ≠
        .error (.calleeGone callee) := by
  intro announcing
  have hdealer : announcing.dealer = Run.final Dealer.perform {} (served operations) :=
    dealer_final { board } operations
  have htables : announcing.dealer.Tables := by
    rw [hdealer]
    exact Dealer.tables_final (served operations)
  refine ⟨htables, fun session id => htables.attached_of_servedBy, ?_,
    htables.registrationsByProcedure_iff, htables.registrationsWith_iff,
    fun procedure entry => htables.isLive_of_get?,
    fun ambient session request callee hclosed =>
      htables.answer_ne_calleeGone ambient session request hclosed callee⟩
  intro id session registration hfound hcallee
  rw [hdealer] at hfound
  exact Dealer.joinedBy_of_callee (served operations) hfound hcallee

end Wamp.AnnouncingDealer
