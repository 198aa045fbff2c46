import Mathlib.Data.List.Nodup
import Mathlib.Data.Nat.ModEq
import Wamp.Identifier

/-!
# The cycle of identifiers

A counter hands out `1`, `2` and so on up to `2 ^ 53`, and begins again at `1`.  A draw takes two
successors, one to be stored and one to be handed out.  It is followed here step by step, with
every sum checked, and comes to the draw of the counter; many draws in a row are a stretch of the
cycle that begins where the counter stands.
-/

namespace Wamp.IdCounter

/-! ## Draws with checked sums -/

/-- A sum that stays within 64 bits. -/
def sum? (left right : UInt64) : Option UInt64 :=
  if left.toNat + right.toNat < UInt64.size then some (left + right) else none

def successor? (last : UInt64) : Option UInt64 :=
  if maxId ≤ last then some 1 else sum? last 1

/-- Stores what an update makes of the stored value, and hands that value back.  An update that
declines keeps it, and it is handed back as an error; an update without a result leaves none. -/
def fetchUpdate? (counter : IdCounter) (update? : UInt64 → Option (Option UInt64)) :
    Option (Except UInt64 UInt64 × IdCounter) :=
  (update? counter.last).map fun
    | some updated => (.ok counter.last, { last := updated })
    | none => (.error counter.last, counter)

/-- One successor is stored, and the same one is computed anew to be handed out. -/
def draw? (counter : IdCounter) : Option (Id × IdCounter) := do
  let (fetched, updated) ← counter.fetchUpdate? fun last => (successor? last).map some
  let previous := match fetched with
    | .ok previous => previous
    | .error last => last
  let drawn ← successor? previous
  return (drawn.toNat, updated)

theorem successor?_eq (last : UInt64) : successor? last = some (successor last) := by
  unfold successor? successor
  split
  next => rfl
  next hroom =>
    have hlast : last.toNat < maxId.toNat :=
      UInt64.lt_iff_toNat_lt.mp (UInt64.not_le.mp hroom)
    have hmax : maxId.toNat + 1 < UInt64.size := by decide
    exact if_pos (Nat.lt_trans (Nat.add_lt_add_right hlast 1) hmax)

theorem draw?_eq (counter : IdCounter) : counter.draw? = some counter.next := by
  simp [draw?, fetchUpdate?, successor?_eq, next]

/-! ## Stretches of the cycle -/

/-- The identifier that comes after so many draws. -/
def ahead (counter : IdCounter) (draws : Nat) : Nat :=
  (min counter.last.toNat maxId.toNat + draws) % maxId.toNat + 1

theorem fst_next (counter : IdCounter) : counter.next.1 = counter.ahead 0 := by
  show (successor counter.last).toNat = counter.ahead 0
  have hmax : maxId.toNat = 9007199254740992 := rfl
  simp only [ahead, toNat_successor, hmax]
  split <;> omega

theorem ahead_snd_next (counter : IdCounter) (draws : Nat) :
    counter.next.2.ahead draws = counter.ahead (draws + 1) := by
  have hmax : maxId.toNat = 9007199254740992 := rfl
  simp only [next, ahead, toNat_successor, hmax]
  split <;> omega

theorem ahead_pos (counter : IdCounter) (draws : Nat) : 1 ≤ counter.ahead draws :=
  Nat.le_add_left 1 _

theorem ahead_le (counter : IdCounter) (draws : Nat) : counter.ahead draws ≤ maxId.toNat :=
  Nat.mod_lt _ (by decide)

theorem ahead_eq_ahead_add_iff (counter : IdCounter) (draws distance : Nat) :
    counter.ahead draws = counter.ahead (draws + distance) ↔ maxId.toNat ∣ distance := by
  rw [ahead, ahead, Nat.add_right_cancel_iff, ← Nat.add_assoc]
  exact Nat.left_modEq_add_iff

/-- Within one round no identifier comes twice. -/
theorem eq_of_ahead_eq (counter : IdCounter) {first second : Nat} (hle : first ≤ second)
    (hround : second < first + maxId.toNat)
    (hsame : counter.ahead first = counter.ahead second) : first = second := by
  obtain ⟨distance, rfl⟩ := Nat.exists_eq_add_of_le hle
  have hdvd := (counter.ahead_eq_ahead_add_iff first distance).mp hsame
  have hzero := Nat.eq_zero_of_dvd_of_lt hdvd (by omega)
  rw [hzero, Nat.add_zero]

/-! ## Many draws -/

/-- The identifiers of so many draws in a row, and the counter after them. -/
def draws? (counter : IdCounter) : Nat → Option (List Id × IdCounter)
  | 0 => some ([], counter)
  | n + 1 =>
    counter.draw?.bind fun (id, next) =>
      (next.draws? n).map fun (ids, later) => (id :: ids, later)

theorem draws?_succ (counter : IdCounter) (n : Nat) :
    counter.draws? (n + 1) =
      (counter.next.2.draws? n).map fun (ids, later) => (counter.next.1 :: ids, later) := by
  rw [draws?, draw?_eq, Option.bind_some]

theorem draws?_eq (counter : IdCounter) (n : Nat) :
    ∃ later, counter.draws? n = some ((List.range n).map counter.ahead, later) := by
  induction n generalizing counter with
  | zero => exact ⟨counter, rfl⟩
  | succ n ih =>
      obtain ⟨later, hlater⟩ := ih counter.next.2
      have hrest : (List.range n).map counter.next.2.ahead =
          (List.range n).map (counter.ahead ∘ Nat.succ) :=
        List.map_congr_left fun draws _ => counter.ahead_snd_next draws
      refine ⟨later, ?_⟩
      rw [draws?_succ, hlater, Option.map_some, hrest, List.range_succ_eq_map, List.map_cons,
        List.map_map, fst_next]

theorem nodup_map_ahead (counter : IdCounter) {n : Nat} (hround : n ≤ maxId.toNat) :
    ((List.range n).map counter.ahead).Nodup := by
  refine List.Nodup.map_on ?_ List.nodup_range
  intro first hfirst second hsecond hsame
  rw [List.mem_range] at hfirst hsecond
  rcases Nat.le_total first second with hle | hle
  · exact counter.eq_of_ahead_eq hle (by omega) hsame
  · exact (counter.eq_of_ahead_eq hle (by omega) hsame.symm).symm

theorem ahead_empty : ahead {} = fun draws => draws % maxId.toNat + 1 := by
  funext draws
  simp [ahead]

/-- No sum of a draw overflows.  A new counter hands out the cycle from its beginning; and whatever
a counter has handed out, so many draws in a row stay within the cycle, do not repeat themselves
within one round, and come back to an identifier after whole rounds only. -/
theorem cycle_of_draws :
    (∀ counter : IdCounter, counter.draw? = some counter.next) ∧
    (∀ n, ∃ later, draws? {} n =
      some ((List.range n).map fun draws => draws % 2 ^ 53 + 1, later)) ∧
    ∀ (counter : IdCounter) (n : Nat), ∃ ids later,
      counter.draws? n = some (ids, later) ∧ ids.length = n ∧
        (∀ id ∈ ids, 1 ≤ id ∧ id ≤ 2 ^ 53) ∧
        (n ≤ 2 ^ 53 → ids.Nodup) ∧
        ∀ index distance, index + distance < n →
          (ids[index]? = ids[index + distance]? ↔ 2 ^ 53 ∣ distance) := by
  have hmax : maxId.toNat = 2 ^ 53 := rfl
  refine ⟨draw?_eq, ?_, ?_⟩
  · intro n
    obtain ⟨later, hlater⟩ := draws?_eq {} n
    rw [ahead_empty, hmax] at hlater
    exact ⟨later, hlater⟩
  · intro counter n
    obtain ⟨later, hlater⟩ := counter.draws?_eq n
    refine ⟨(List.range n).map counter.ahead, later, hlater, by simp, ?_, ?_, ?_⟩
    · intro id hid
      obtain ⟨draws, -, rfl⟩ := List.mem_map.mp hid
      exact ⟨counter.ahead_pos draws, counter.ahead_le draws⟩
    · exact counter.nodup_map_ahead
    · intro index distance hlt
      rw [List.getElem?_map, List.getElem?_map, List.getElem?_range (by omega),
        List.getElem?_range hlt, Option.map_some, Option.map_some, Option.some.injEq]
      exact counter.ahead_eq_ahead_add_iff index distance

/-- A new counter comes back to its first identifier after one round, and two draws of which the
second begins the next round differ. -/
theorem cycle_of_draws_nextRound :
    (∃ ids later, draws? {} (2 ^ 53 + 1) = some (ids, later) ∧
      0 + 2 ^ 53 < 2 ^ 53 + 1 ∧ ids[0]? = ids[0 + 2 ^ 53]?) ∧
    ∃ ids later, draws? { last := maxId - 1 } 2 = some (ids, later) ∧
      2 ≤ 2 ^ 53 ∧ ids.Nodup := by
  obtain ⟨-, -, hstretches⟩ := cycle_of_draws
  have hround : 0 + 2 ^ 53 < 2 ^ 53 + 1 := by omega
  have hpair : 2 ≤ 2 ^ 53 := by omega
  obtain ⟨ids, later, hids, -, -, -, hsame⟩ := hstretches {} (2 ^ 53 + 1)
  obtain ⟨pair, after, hdrawn, -, -, hdistinct, -⟩ := hstretches { last := maxId - 1 } 2
  exact ⟨⟨ids, later, hids, hround, (hsame 0 (2 ^ 53) hround).mpr (dvd_refl _)⟩,
    pair, after, hdrawn, hpair, hdistinct hpair⟩

/-- The last identifier of a round is followed by the first of the next. -/
example : draws? { last := maxId - 1 } 2 = some ([9007199254740992, 1], { last := 1 }) := by
  decide

end Wamp.IdCounter
