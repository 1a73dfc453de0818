import Mathlib.Algebra.GroupWithZero.Nat
import Mathlib.Order.Bounds.Defs
import Smpp.Message.Segment

/-!
The cut of a text into runs. Each run takes as many characters as the budget allows, and no other cut
within the budget has fewer runs: it is always at least as far behind in the text.
-/

namespace Smpp.Segment

section

variable {width : Char → Nat} {budget : Nat}

theorem takeRun_append (used : Nat) (characters : List Char) :
    (takeRun width budget used characters).1 ++ (takeRun width budget used characters).2 = characters := by
  induction characters generalizing used with
  | nil => rfl
  | cons character rest ih =>
      rw [takeRun]
      split
      · rw [List.cons_append, ih]
      · rfl

theorem takeRun_fits {used : Nat} (fits : used ≤ budget) (characters : List Char) :
    used + ((takeRun width budget used characters).1.map width).sum ≤ budget := by
  induction characters generalizing used with
  | nil => exact fits
  | cons character rest ih =>
      rw [takeRun]
      split
      · rename_i more
        have tail := ih more
        rw [List.map_cons, List.sum_cons]
        omega
      · exact fits

/-- What a run leaves is no more than what any front within the budget leaves. -/
theorem takeRun_leaves {used : Nat} {front : List Char} (fits : used + (front.map width).sum ≤ budget)
    (rest : List Char) : (takeRun width budget used (front ++ rest)).2 <:+ rest := by
  induction front generalizing used with
  | nil => exact ⟨_, takeRun_append used rest⟩
  | cons character front ih =>
      rw [List.map_cons, List.sum_cons] at fits
      have first : used + width character ≤ budget := by omega
      rw [List.cons_append, takeRun, if_pos first]
      exact ih (by omega)

theorem takeRun_of_unit {characters : List Char} (unit : ∀ character ∈ characters, width character = 1)
    (used : Nat) : (takeRun width budget used characters).2 = characters.drop (budget - used) := by
  induction characters generalizing used with
  | nil => rw [List.drop_nil]; rfl
  | cons character rest ih =>
      have one := unit character List.mem_cons_self
      rw [takeRun, one]
      split
      · rename_i more
        have next : budget - used = budget - (used + 1) + 1 := by omega
        rw [next, List.drop_succ_cons]
        exact ih (fun other member => unit other (List.mem_cons_of_mem _ member)) (used + 1)
      · rename_i full
        have none : budget - used = 0 := by omega
        rw [none, List.drop_zero]

theorem flatten_runs (characters : List Char) : (runs width budget characters).flatten = characters := by
  fun_induction runs width budget characters with
  | case1 => rfl
  | case2 character rest cut shorter ih =>
      rw [List.flatten_cons, ih, List.cons_append, takeRun_append]

theorem runs_fit (narrow : ∀ character, width character ≤ budget) (characters : List Char) :
    ∀ run ∈ runs width budget characters, (run.map width).sum ≤ budget := by
  fun_induction runs width budget characters with
  | case1 =>
      intro run member
      cases member
  | case2 character rest cut shorter ih =>
      intro run member
      rcases List.mem_cons.mp member with rfl | later
      · exact takeRun_fits (narrow character) rest
      · exact ih run later

theorem takeRun_suffix (used : Nat) (characters : List Char) :
    (takeRun width budget used characters).2 <:+ characters := ⟨_, takeRun_append used characters⟩

theorem takeRun_behind {first behind rest : List Char} {character : Char}
    (fits : (first.map width).sum ≤ budget) (inside : character :: rest <:+ first ++ behind) :
    (takeRun width budget (width character) rest).2 <:+ behind := by
  have left : (takeRun width budget (width character) rest).2 <:+ rest := takeRun_suffix (width character) rest
  rcases List.suffix_or_suffix_of_suffix inside (List.suffix_append first behind) with shorter | longer
  · exact left.trans ((List.suffix_cons character rest).trans shorter)
  · obtain ⟨front, split⟩ := longer
    rw [← split, List.suffix_append_self_iff] at inside
    obtain ⟨before, rfl⟩ := inside
    rw [List.map_append, List.sum_append] at fits
    cases front with
    | nil =>
        rw [List.nil_append] at split
        rw [split]
        exact left.trans (List.suffix_cons character rest)
    | cons same front =>
        obtain ⟨rfl, rfl⟩ := List.cons.inj split
        rw [List.map_cons, List.sum_cons] at fits
        exact takeRun_leaves (by omega) behind

/-- A cut within the budget of as much text or more has as many runs or more. -/
theorem length_runs_le {cut : List (List Char)} (fits : ∀ run ∈ cut, (run.map width).sum ≤ budget)
    {characters : List Char} (inside : characters <:+ cut.flatten) :
    (runs width budget characters).length ≤ cut.length := by
  induction cut generalizing characters with
  | nil =>
      have none : runs width budget characters = [] := by rw [List.suffix_nil.mp inside, runs]
      simp only [none, Nat.le_refl]
  | cons first others ih =>
      cases characters with
      | nil =>
          rw [runs]
          exact Nat.zero_le _
      | cons character rest =>
          have left := takeRun_behind (fits first List.mem_cons_self) inside
          have fewer := ih (fun run member => fits run (List.mem_cons_of_mem _ member)) left
          rw [runs, List.length_cons, List.length_cons]
          omega

theorem length_runs_of_unit (positive : 0 < budget) {characters : List Char}
    (unit : ∀ character ∈ characters, width character = 1) :
    (runs width budget characters).length = (characters.length + budget - 1) / budget := by
  fun_induction runs width budget characters with
  | case1 =>
      rw [List.length_nil, List.length_nil, Nat.zero_add, Nat.div_eq_of_lt (by omega)]
  | case2 character rest cut shorter ih =>
      have one := unit character List.mem_cons_self
      have others : ∀ other ∈ rest, width other = 1 := fun other member =>
        unit other (List.mem_cons_of_mem _ member)
      have left : cut.2 = rest.drop (budget - 1) :=
        (takeRun_of_unit others (width character)).trans (by rw [one])
      have next : (rest.length + 1 + budget - 1) / budget = rest.length / budget + 1 := by
        rw [Nat.add_right_comm, Nat.add_sub_cancel, Nat.add_div_right _ positive]
      rw [List.length_cons, List.length_cons, next, ih (fun other member => ?_), left, List.length_drop]
      · by_cases full : budget - 1 ≤ rest.length
        · rw [show rest.length - (budget - 1) + budget - 1 = rest.length by omega]
        · rw [show rest.length - (budget - 1) + budget - 1 = budget - 1 by omega,
            Nat.div_eq_of_lt (by omega), Nat.div_eq_of_lt (by omega)]
      · exact others other ((takeRun_suffix _ rest).mem member)

end

def CutsInto (width : Char → Nat) (budget : Nat) (characters : List Char) (count : Nat) : Prop :=
  ∃ cut : List (List Char), cut.length = count ∧ cut.flatten = characters ∧
    ∀ run ∈ cut, (run.map width).sum ≤ budget

theorem sum_le_of_cutsInto {width : Char → Nat} {budget : Nat} {characters : List Char} {count : Nat}
    (cuts : CutsInto width budget characters count) (few : count ≤ 1) :
    (characters.map width).sum ≤ budget := by
  obtain ⟨cut, rfl, rfl, fits⟩ := cuts
  cases cut with
  | nil => exact Nat.zero_le budget
  | cons run others =>
      have none : others = [] := List.eq_nil_of_length_eq_zero (by rw [List.length_cons] at few; omega)
      rw [none, List.flatten_singleton]
      exact fits run List.mem_cons_self

theorem isLeast_length_runs {width : Char → Nat} {budget : Nat} (narrow : ∀ character, width character ≤ budget)
    (characters : List Char) :
    IsLeast {count | CutsInto width budget characters count} (runs width budget characters).length := by
  constructor
  · exact ⟨_, rfl, flatten_runs characters, runs_fit narrow characters⟩
  · rintro count ⟨cut, rfl, rfl, fits⟩
    exact length_runs_le fits List.suffix_rfl

end Smpp.Segment
