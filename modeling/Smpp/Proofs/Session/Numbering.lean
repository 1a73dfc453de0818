import Mathlib.Data.Finset.Card
import Mathlib.Data.Nat.Count
import Mathlib.Logic.Function.Iterate
import Smpp.Session.Pending

/-!
Sequence numbers. The numbers follow one another in a circle, so that the search for a free one tries
different numbers until it has tried them all; a table that does not hold them all has a free number
among those that the search tries.
-/

namespace Smpp

namespace PendingTable

def IsSequence (sequence : UInt32) : Prop := 1 ≤ sequence.toNat ∧ sequence.toNat ≤ lastSequence.toNat

theorem toNat_lastSequence : lastSequence.toNat = 0x7FFFFFFF := rfl

theorem toNat_following {sequence : UInt32} (listed : IsSequence sequence) :
    (following sequence).toNat = sequence.toNat % lastSequence.toNat + 1 := by
  obtain ⟨low, high⟩ := listed
  unfold following
  split
  · rename_i last
    have same : sequence.toNat = lastSequence.toNat := by
      have bound := UInt32.le_iff_toNat_le.mp last
      omega
    rw [same, Nat.mod_self]
    rfl
  · rename_i inside
    have below : sequence.toNat < lastSequence.toNat := by
      rw [UInt32.not_le] at inside
      exact UInt32.lt_iff_toNat_lt.mp inside
    rw [Nat.mod_eq_of_lt below, UInt32.toNat_add]
    rw [toNat_lastSequence] at below
    simp only [UInt32.toNat_one]
    omega

theorem isSequence_following (sequence : UInt32) : IsSequence (following sequence) := by
  unfold following
  split
  · exact ⟨by decide, by decide⟩
  · rename_i inside
    rw [UInt32.not_le] at inside
    have below := UInt32.lt_iff_toNat_lt.mp inside
    rw [toNat_lastSequence] at below
    unfold IsSequence
    rw [UInt32.toNat_add, toNat_lastSequence]
    simp only [UInt32.toNat_one]
    omega

theorem isSequence_iterate {sequence : UInt32} (listed : IsSequence sequence) (steps : Nat) :
    IsSequence (following^[steps] sequence) := by
  cases steps with
  | zero => exact listed
  | succ steps =>
      rw [Function.iterate_succ_apply']
      exact isSequence_following _

theorem toNat_iterate_following {sequence : UInt32} (listed : IsSequence sequence) (steps : Nat) :
    (following^[steps] sequence).toNat = (sequence.toNat - 1 + steps) % lastSequence.toNat + 1 := by
  have low := listed.1
  have high := listed.2
  rw [toNat_lastSequence] at high ⊢
  induction steps with
  | zero =>
      simp only [Function.iterate_zero, id_eq, Nat.add_zero]
      omega
  | succ steps ih =>
      have step := toNat_following (isSequence_iterate listed steps)
      rw [toNat_lastSequence] at step
      rw [Function.iterate_succ_apply', step, ih]
      omega

theorem iterate_following_around {sequence : UInt32} (listed : IsSequence sequence) :
    following^[lastSequence.toNat] sequence = sequence := by
  have low := listed.1
  have high := listed.2
  apply UInt32.toNat_inj.mp
  rw [toNat_iterate_following listed, Nat.add_mod_right, Nat.mod_eq_of_lt (by omega)]
  omega

theorem iterate_following_back {sequence : UInt32} (listed : IsSequence sequence) :
    following^[lastSequence.toNat - 1] (following sequence) = sequence := by
  rw [← Function.iterate_succ_apply]
  exact iterate_following_around listed

theorem iterate_following_inj {sequence : UInt32} (listed : IsSequence sequence) {first second : Nat}
    (firstBound : first < lastSequence.toNat) (secondBound : second < lastSequence.toNat)
    (same : following^[first] sequence = following^[second] sequence) : first = second := by
  have low := listed.1
  have high := listed.2
  have equal := congrArg UInt32.toNat same
  rw [toNat_iterate_following listed, toNat_iterate_following listed] at equal
  rw [toNat_lastSequence] at high firstBound secondBound equal
  omega

theorem findFree_spec (table : PendingTable) (tries : Nat) (sequence : UInt32) :
    ∃ steps, steps ≤ tries ∧ table.findFree tries sequence = following^[steps] sequence ∧
      (∀ earlier < steps, table.isOutstanding (following^[earlier] sequence) = true) ∧
      (steps < tries → table.isOutstanding (following^[steps] sequence) = false) := by
  induction tries generalizing sequence with
  | zero =>
      refine ⟨0, Nat.le_refl 0, rfl, ?_, ?_⟩
      · intro earlier impossible
        omega
      · intro impossible
        omega
  | succ tries ih =>
      by_cases used : table.isOutstanding sequence = true
      · obtain ⟨steps, bound, found, before, free⟩ := ih (following sequence)
        refine ⟨steps + 1, by omega, ?_, ?_, ?_⟩
        · simp only [findFree, used, ↓reduceIte, found, Function.iterate_succ_apply]
        · intro earlier inside
          cases earlier with
          | zero => exact used
          | succ earlier =>
              rw [Function.iterate_succ_apply]
              exact before earlier (by omega)
        · intro inside
          rw [Function.iterate_succ_apply]
          exact free (by omega)
      · rw [Bool.not_eq_true] at used
        refine ⟨0, by omega, ?_, ?_, ?_⟩
        · simp only [findFree, used, Bool.false_eq_true, ↓reduceIte, Function.iterate_zero, id_eq]
        · intro earlier impossible
          omega
        · intro _
          exact used

theorem isSequence_freeSequence {table : PendingTable} (listed : IsSequence table.next) :
    IsSequence table.freeSequence := by
  obtain ⟨steps, _, found, _⟩ := table.findFree_spec table.requests.length table.next
  rw [freeSequence, found]
  exact isSequence_iterate listed steps

theorem isOutstanding_iff {table : PendingTable} {sequence : UInt32} :
    table.isOutstanding sequence = true ↔ ∃ request ∈ table.requests, request.sequence = sequence := by
  simp only [isOutstanding, List.any_eq_true, beq_iff_eq]

theorem isOutstanding_register_iff {table : PendingTable} {commandId : CommandId} {now : Nat}
    {sequence : UInt32} : (table.register commandId now).2.isOutstanding sequence = true ↔
      table.freeSequence = sequence ∨ table.isOutstanding sequence = true := by
  simp only [register, isOutstanding, List.any_cons, Bool.or_eq_true, beq_iff_eq]

theorem isOutstanding_register {table : PendingTable} {commandId : CommandId} {now : Nat} {sequence : UInt32} :
    (table.register commandId now).2.isOutstanding sequence = false ↔
      table.freeSequence ≠ sequence ∧ table.isOutstanding sequence = false := by
  simp only [register, isOutstanding, List.any_cons, Bool.or_eq_false_iff, beq_eq_false_iff_ne, ne_eq]

def inUse (table : PendingTable) (first : UInt32) (count : Nat) : Nat :=
  Nat.count (fun place => table.isOutstanding (following^[place] first) = true) count

section

variable {table other : PendingTable} {first : UInt32} {count : Nat}

theorem inUse_add (table : PendingTable) (first : UInt32) (near far : Nat) :
    table.inUse first (near + far) = table.inUse first near + table.inUse (following^[near] first) far := by
  unfold inUse
  rw [Nat.count_add]
  simp only [← Function.iterate_add_apply, Nat.add_comm]

theorem inUse_mono (fewer : ∀ place < count, table.isOutstanding (following^[place] first) = true →
    other.isOutstanding (following^[place] first) = true) : table.inUse first count ≤ other.inUse first count :=
  Nat.count_mono_left fewer

theorem inUse_of_all (all : ∀ place < count, table.isOutstanding (following^[place] first) = true) :
    table.inUse first count = count := Nat.count_iff_forall.mpr all

theorem inUse_le_size (table : PendingTable) (listed : IsSequence first) (bound : count ≤ lastSequence.toNat) :
    table.inUse first count ≤ table.size := by
  let numbers := (table.requests.map PendingRequest.sequence).toFinset
  have few : numbers.card ≤ table.size := by
    have bound := List.toFinset_card_le (table.requests.map PendingRequest.sequence)
    rwa [List.length_map] at bound
  unfold inUse
  rw [Nat.count_eq_card_filter_range]
  refine Nat.le_trans (Finset.card_le_card_of_injOn (fun place => following^[place] first) ?_ ?_) few
  · intro place inside
    obtain ⟨_, used⟩ := Finset.mem_filter.mp inside
    obtain ⟨request, member, same⟩ := isOutstanding_iff.mp used
    exact List.mem_toFinset.mpr (List.mem_map.mpr ⟨request, member, same⟩)
  · intro one oneInside two twoInside same
    have oneBound := Finset.mem_range.mp (Finset.mem_filter.mp oneInside).1
    have twoBound := Finset.mem_range.mp (Finset.mem_filter.mp twoInside).1
    exact iterate_following_inj listed (by omega) (by omega) same

end

/-- As many different numbers in a row as there are requests cannot all be in use and leave the next
one in use, too. -/
theorem exists_free {table : PendingTable} (listed : IsSequence table.next)
    (room : table.requests.length < lastSequence.toNat) :
    ∃ steps ≤ table.requests.length, table.isOutstanding (following^[steps] table.next) = false := by
  by_contra none
  have all : table.inUse table.next (table.requests.length + 1) = table.requests.length + 1 := by
    apply inUse_of_all
    intro steps bound
    by_contra free
    rw [Bool.not_eq_true] at free
    exact none ⟨steps, by omega, free⟩
  have few := table.inUse_le_size listed room
  rw [all] at few
  exact Nat.not_succ_le_self _ few

/-- The number that the next request gets is the first in the circle that is not in use. -/
theorem freeSequence_spec {table : PendingTable} (listed : IsSequence table.next)
    (room : table.requests.length < lastSequence.toNat) :
    ∃ steps ≤ table.requests.length, table.freeSequence = following^[steps] table.next ∧
      (∀ earlier < steps, table.isOutstanding (following^[earlier] table.next) = true) ∧
      table.isOutstanding table.freeSequence = false := by
  obtain ⟨steps, bound, found, before, free⟩ := table.findFree_spec table.requests.length table.next
  have same : table.freeSequence = following^[steps] table.next := found
  refine ⟨steps, bound, same, before, ?_⟩
  rw [same]
  by_cases last : steps < table.requests.length
  · exact free last
  -- The last number tried is not looked up; it is free because all before it are in use.
  · obtain ⟨other, otherBound, otherFree⟩ := exists_free listed room
    have reached : other = steps := by
      by_contra different
      have used := before other (by omega)
      rw [otherFree] at used
      cases used
    rw [← reached]
    exact otherFree

end PendingTable

end Smpp
