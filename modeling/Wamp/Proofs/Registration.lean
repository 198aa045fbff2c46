import Mathlib.Data.List.Nodup
import Wamp.Registration

/-!
# Well-formed registrations

What holds of a registration as long as somebody serves it, whoever joins, leaves or is called.
-/

namespace Wamp.Registration

structure WellFormed (registration : Registration) : Prop where
  served : registration.callees ≠ []
  nodup : registration.callees.Nodup
  single : registration.invoke = .single → registration.callees.length = 1
  cursor_le : registration.cursor ≤ registration.callees.length

theorem admits_iff {registration : Registration} {requested : InvocationPolicy} :
    registration.admits requested = true ↔
      registration.invoke ≠ .single ∧ registration.invoke = requested := by
  simp only [admits, Bool.and_eq_true, beq_iff_eq]
  apply and_congr_left
  rintro rfl
  cases registration.invoke <;> simp [InvocationPolicy.shared]

theorem leave_eq (registration : Registration) (session : Id) :
    ∃ cursor, registration.leave session =
      { registration with callees := registration.callees.erase session, cursor } := by
  have hcallees := registration.callees_leave session
  revert hcallees
  unfold leave
  cases registration.callees.idxOf? session with
  | none =>
      simp only
      rintro hkept
      exact ⟨registration.cursor, by rw [← hkept]⟩
  | some position =>
      simp only
      rintro hleft
      exact ⟨_, by rw [← hleft]⟩

theorem leave_of_not_mem {registration : Registration} {session : Id}
    (hmissing : session ∉ registration.callees) : registration.leave session = registration := by
  unfold leave
  rw [List.idxOf?_eq_none_iff.mpr hmissing]

theorem commit_eq (registration : Registration) (position : Nat) :
    ∃ cursor, registration.commit position = { registration with cursor } := by
  unfold commit
  split <;> exact ⟨_, rfl⟩

namespace WellFormed

variable {registration : Registration}

/-- Some callee serves the next call, whatever the draw is. -/
theorem exists_pick? (hformed : registration.WellFormed) (draw : Nat) :
    ∃ position callee, registration.pick? draw = some position ∧
      registration.callees[position]? = some callee := by
  cases hpick : registration.pick? draw with
  | none =>
      have hcount : registration.callees.length ≠ 0 :=
        fun hzero => hformed.served (List.eq_nil_of_length_eq_zero hzero)
      unfold pick? at hpick
      simp only [if_neg hcount] at hpick
      split at hpick
      next => contradiction
      next => split at hpick <;> contradiction
  | some position =>
      exact ⟨position, _, rfl, List.getElem?_eq_getElem (lt_length_of_pick? hpick)⟩

theorem join (hformed : registration.WellFormed) {requested : InvocationPolicy}
    (hadmits : registration.admits requested = true) {session : Id}
    (hnew : session ∉ registration.callees) : (registration.join session).WellFormed where
  served := by simp [Registration.join]
  nodup := by
    have happend := List.nodup_append.mpr
      ⟨hformed.nodup, List.nodup_singleton session, fun callee hcallee other hother hsame =>
        hnew (by rwa [hsame, List.mem_singleton.mp hother] at hcallee)⟩
    exact happend
  single hsingle := absurd hsingle (admits_iff.mp hadmits).1
  cursor_le := by
    have hcursor := hformed.cursor_le
    simp only [Registration.join, List.length_append, List.length_singleton]
    omega

theorem leave (hformed : registration.WellFormed) {session : Id}
    (hcallee : session ∈ registration.callees)
    (hleft : (registration.leave session).callees ≠ []) :
    (registration.leave session).WellFormed where
  served := hleft
  nodup := by
    rw [callees_leave]
    exact hformed.nodup.erase session
  single hsingle := by
    obtain ⟨cursor, hsession⟩ := registration.leave_eq session
    rw [hsession] at hsingle
    have hone := hformed.single hsingle
    have hnone : (registration.leave session).callees.length = 0 := by
      rw [callees_leave, List.length_erase_of_mem hcallee, hone]
    exact absurd (List.eq_nil_of_length_eq_zero hnone) hleft
  cursor_le := by
    unfold Registration.leave
    split
    next => exact hformed.cursor_le
    next =>
      simp only
      split <;> split <;> omega

theorem commit (hformed : registration.WellFormed) {position : Nat}
    (hposition : position < registration.callees.length) :
    (registration.commit position).WellFormed where
  served := by
    rw [callees_commit]
    exact hformed.served
  nodup := by
    rw [callees_commit]
    exact hformed.nodup
  single := by
    obtain ⟨cursor, hcommit⟩ := registration.commit_eq position
    rw [hcommit]
    exact hformed.single
  cursor_le := by
    rw [callees_commit]
    unfold Registration.commit
    split
    next => exact hposition
    next => exact hformed.cursor_le

end WellFormed

end Wamp.Registration
