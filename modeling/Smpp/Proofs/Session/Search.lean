import Mathlib.Data.List.Iterate
import Smpp.Proofs.Session.Retirement

/-!
The search for a number. As a loop it has no bound of its own: it ends because a table never holds all
numbers. What it passes over, search after search, is the circle of the numbers in its order, so that
it comes to every other number before it comes to one again.
-/

namespace Smpp

namespace PendingTable

/-- The search from a number on as the loop that it is: which numbers in use it passes over, and where it
ends. -/
inductive Searches (table : PendingTable) : UInt32 → List UInt32 → UInt32 → Prop
  | found {sequence : UInt32} (free : table.isOutstanding sequence = false) :
      Searches table sequence [] sequence
  | passed {sequence found : UInt32} {passed : List UInt32} (used : table.isOutstanding sequence = true)
      (others : Searches table (following sequence) passed found) :
      Searches table sequence (sequence :: passed) found

theorem Searches.unique {table : PendingTable} {sequence found otherFound : UInt32}
    {passed otherPassed : List UInt32} (search : table.Searches sequence passed found)
    (other : table.Searches sequence otherPassed otherFound) : otherPassed = passed ∧ otherFound = found := by
  induction search generalizing otherPassed with
  | found free =>
      cases other with
      | found _ => exact ⟨rfl, rfl⟩
      | passed used _ => cases free.symm.trans used
  | passed used _ ih =>
      cases other with
      | found free => cases free.symm.trans used
      | passed _ others =>
          obtain ⟨rfl, rfl⟩ := ih others
          exact ⟨rfl, rfl⟩

theorem searches_iterate {table : PendingTable} {sequence : UInt32} {steps : Nat}
    (used : ∀ earlier < steps, table.isOutstanding (following^[earlier] sequence) = true)
    (free : table.isOutstanding (following^[steps] sequence) = false) :
    table.Searches sequence (List.iterate following sequence steps) (following^[steps] sequence) := by
  induction steps generalizing sequence with
  | zero => exact .found free
  | succ steps ih =>
      exact .passed (used 0 (Nat.succ_pos steps))
        (ih (fun earlier bound => used (earlier + 1) (Nat.succ_lt_succ bound)) free)

def place (first : UInt32) (steps : Nat) : Nat := (first.toNat - 1 + steps) % 0x7FFFFFFF + 1

/-- What a request gets, told by the numbers that are in use: the first one of the circle, from `next` on,
that is not. -/
structure TakesNextFree (table : PendingTable) (commandId : CommandId) (now : Nat) : Prop where
  ends : ∃ passed, table.Searches table.next passed (table.register commandId now).1.sequence ∧
    ∀ others found, table.Searches table.next others found →
      others = passed ∧ found = (table.register commandId now).1.sequence
  first : ∃ steps < 0x7FFFFFFF,
    (table.register commandId now).1.sequence.toNat = place table.next steps ∧
    ∀ earlier < steps, ∃ request ∈ table.requests, request.sequence.toNat = place table.next earlier
  free : ∀ request ∈ table.requests, request.sequence ≠ (table.register commandId now).1.sequence
  successor : (table.register commandId now).2.next.toNat =
    (table.register commandId now).1.sequence.toNat % 0x7FFFFFFF + 1
  inside : 1 ≤ (table.register commandId now).2.next.toNat ∧
    (table.register commandId now).2.next.toNat ≤ 0x7FFFFFFF

section

variable {table : PendingTable}

theorem searches_freeSequence (listed : IsSequence table.next)
    (room : table.requests.length < lastSequence.toNat) :
    ∃ steps ≤ table.requests.length, table.freeSequence = following^[steps] table.next ∧
      table.Searches table.next (List.iterate following table.next steps) table.freeSequence := by
  obtain ⟨steps, bound, found, used, free⟩ := freeSequence_spec listed room
  refine ⟨steps, bound, found, ?_⟩
  rw [found] at free ⊢
  exact searches_iterate used free

theorem takesNextFree (listed : IsSequence table.next) (room : table.size < 0x7FFFFFFF) (commandId : CommandId)
    (now : Nat) : table.TakesNextFree commandId now := by
  obtain ⟨steps, bound, found, used, free⟩ := freeSequence_spec listed room
  obtain ⟨_, _, _, search⟩ := searches_freeSequence listed room
  constructor
  · exact ⟨_, search, fun others number other => search.unique other⟩
  · refine ⟨steps, Nat.lt_of_le_of_lt bound room, ?_, fun earlier near => ?_⟩
    · exact (congrArg UInt32.toNat found).trans (toNat_iterate_following listed steps)
    · obtain ⟨request, member, same⟩ := isOutstanding_iff.mp (used earlier near)
      exact ⟨request, member, (congrArg UInt32.toNat same).trans (toNat_iterate_following listed earlier)⟩
  · intro request member same
    cases free.symm.trans (isOutstanding_iff.mpr ⟨request, member, same⟩)
  · exact toNat_following (isSequence_freeSequence listed)
  · exact isSequence_following table.freeSequence

end

theorem exists_iterate_following {sequence other : UInt32} (listed : IsSequence sequence)
    (otherListed : IsSequence other) : ∃ steps < lastSequence.toNat, following^[steps] sequence = other := by
  obtain ⟨low, high⟩ := listed
  obtain ⟨otherLow, otherHigh⟩ := otherListed
  have positive : 0 < lastSequence.toNat := by decide
  refine ⟨(other.toNat + lastSequence.toNat - sequence.toNat) % lastSequence.toNat,
    Nat.mod_lt _ positive, UInt32.toNat_inj.mp ?_⟩
  rw [toNat_iterate_following ⟨low, high⟩]
  rw [toNat_lastSequence] at high otherHigh ⊢
  omega

end PendingTable

theorem Operation.isRegister_cases (operation : Operation) :
    (∃ commandId, operation = .register commandId) ∨ operation.isRegister = false := by
  cases operation with
  | register commandId => exact Or.inl ⟨commandId, rfl⟩
  | _ => exact Or.inr rfl

namespace Usage

open PendingTable

/-- The numbers that the searches of a run come to, those that they pass over and those that they give
out. -/
inductive ComesTo : Usage → List (Nat × Operation) → List UInt32 → Prop
  | done (usage : Usage) : ComesTo usage [] []
  | register {usage : Usage} {time : Nat} {commandId : CommandId} {operations : List (Nat × Operation)}
      {found : UInt32} {passed later : List UInt32}
      (search : usage.table.Searches usage.table.next passed found)
      (others : ComesTo (usage.perform time (.register commandId)) operations later) :
      ComesTo usage ((time, .register commandId) :: operations) (passed ++ found :: later)
  | other {usage : Usage} {time : Nat} {operation : Operation} {operations : List (Nat × Operation)}
      {later : List UInt32} (retires : operation.isRegister = false)
      (others : ComesTo (usage.perform time operation) operations later) :
      ComesTo usage ((time, operation) :: operations) later

theorem ComesTo.append {usage : Usage} {first second : List (Nat × Operation)} {numbers others : List UInt32}
    (before : ComesTo usage first numbers) (behind : ComesTo (usage.run first) second others) :
    ComesTo usage (first ++ second) (numbers ++ others) := by
  induction before with
  | done usage => exact behind
  | register search _ ih =>
      rw [List.append_assoc, List.cons_append, List.cons_append]
      exact .register search (ih behind)
  | other retires _ ih => exact .other retires (ih behind)

theorem ComesTo.unique {usage : Usage} {operations : List (Nat × Operation)} {numbers others : List UInt32}
    (comesTo : ComesTo usage operations numbers) (also : ComesTo usage operations others) :
    others = numbers := by
  induction comesTo generalizing others with
  | done usage =>
      cases also
      rfl
  | register search _ ih =>
      cases also with
      | register again behind =>
          obtain ⟨rfl, rfl⟩ := search.unique again
          rw [ih behind]
      | other retires _ => cases retires
  | other retires _ ih =>
      cases also with
      | register _ _ => cases retires
      | other _ behind => exact ih behind

theorem next_perform {usage : Usage} {operation : Operation} (retires : operation.isRegister = false)
    (time : Nat) : (usage.perform time operation).table.next = usage.table.next := by
  rcases usage.perform_cases time operation with ⟨commandId, rfl⟩ | ⟨leaves, outcome, _, performed⟩
  · cases retires
  · rw [performed]
    rfl

theorem isSequence_next_perform {usage : Usage} (listed : IsSequence usage.table.next) (time : Nat)
    (operation : Operation) : IsSequence (usage.perform time operation).table.next := by
  rcases operation.isRegister_cases with ⟨commandId, rfl⟩ | retires
  · exact isSequence_following _
  · rw [next_perform retires]
    exact listed

theorem isSequence_next_run {usage : Usage} (listed : IsSequence usage.table.next)
    (operations : List (Nat × Operation)) : IsSequence (usage.run operations).table.next := by
  induction operations generalizing usage with
  | nil => exact listed
  | cons step others ih => exact ih (isSequence_next_perform listed step.1 step.2)

theorem comesTo_iterate {usage : Usage} {operations : List (Nat × Operation)}
    (listed : IsSequence usage.table.next) (room : usage.HasRoom operations) :
    ∃ count, ComesTo usage operations (List.iterate following usage.table.next count) ∧
      (usage.run operations).table.next = following^[count] usage.table.next := by
  induction operations generalizing usage with
  | nil => exact ⟨0, .done usage, rfl⟩
  | cons step others ih =>
      obtain ⟨time, operation⟩ := step
      obtain ⟨roomNow, roomLater⟩ := room
      obtain ⟨count, later, ended⟩ := ih (isSequence_next_perform listed time operation) roomLater
      rcases operation.isRegister_cases with ⟨commandId, rfl⟩ | retires
      · obtain ⟨steps, _, found, search⟩ := searches_freeSequence listed (roomNow rfl)
        refine ⟨steps + (count + 1), ?_, ?_⟩
        · rw [List.iterate_add, ← found]
          exact .register search later
        · rw [Nat.add_comm, Function.iterate_add_apply, ← found]
          exact ended
      · rw [next_perform retires] at later ended
        exact ⟨count, .other retires later, ended⟩

theorem comesTo_again {usage : Usage} {operations : List (Nat × Operation)} {sequence : UInt32} {time : Nat}
    {commandId : CommandId} (listed : IsSequence sequence) (next : usage.table.next = following sequence)
    (room : usage.HasRoom operations)
    (roomThen : (usage.run operations).HasRoom [(time, .register commandId)])
    (again : (usage.run operations).table.freeSequence = sequence) :
    ∃ passed, (∀ numbers, ComesTo usage (operations ++ [(time, .register commandId)]) numbers ↔
        numbers = passed ++ [sequence]) ∧
      ∀ other, IsSequence other → other ≠ sequence → other ∈ passed := by
  have start : IsSequence usage.table.next := by
    rw [next]
    exact isSequence_following sequence
  obtain ⟨count, numbers, ended⟩ := comesTo_iterate start room
  have middle : IsSequence (usage.run operations).table.next := isSequence_next_run start operations
  obtain ⟨steps, _, found, search⟩ := searches_freeSequence middle (roomThen.1 rfl)
  have last : ComesTo (usage.run operations) [(time, .register commandId)] _ :=
    .register search (.done _)
  have all := numbers.append last
  rw [ended, again, ← List.append_assoc, ← List.iterate_add, next] at all
  have around : following^[count + steps + 1] sequence = sequence := by
    rw [again, ended, next, ← Function.iterate_add_apply, ← Function.iterate_succ_apply, Nat.add_comm] at found
    exact found.symm
  -- The way back to the number is at least once round the circle.
  have far : lastSequence.toNat ≤ count + steps + 1 := by
    by_contra near
    have none := iterate_following_inj listed (by omega) (by decide)
      (around.trans rfl : _ = following^[0] sequence)
    omega
  refine ⟨_, fun numbers => ⟨all.unique, ?_⟩, fun other otherListed different => ?_⟩
  · rintro rfl
    exact all
  obtain ⟨distance, bound, reached⟩ := exists_iterate_following listed otherListed
  cases distance with
  | zero => exact absurd reached.symm different
  | succ distance => exact List.mem_iterate.mpr ⟨distance, by omega, reached.symm⟩

theorem run_append (usage : Usage) (first second : List (Nat × Operation)) :
    usage.run (first ++ second) = (usage.run first).run second := by
  induction first generalizing usage with
  | nil => rfl
  | cons step others ih => exact ih (usage.perform step.1 step.2)

theorem hasRoom_append {usage : Usage} {first second : List (Nat × Operation)} :
    usage.HasRoom (first ++ second) ↔ usage.HasRoom first ∧ (usage.run first).HasRoom second := by
  induction first generalizing usage with
  | nil => exact ⟨fun room => ⟨trivial, room⟩, And.right⟩
  | cons step others ih =>
      rw [List.cons_append, HasRoom, HasRoom, ih, and_assoc]
      rfl

/-- In every run the search ends and takes the next free number of the circle. Two requests of a run get
one number only if the searches from the first to the second come to all the other numbers in between,
whatever leaves the table meanwhile. -/
theorem search_goes_round :
    (∀ operations, (run {} operations).table.size < 0x7FFFFFFF →
      ∀ commandId now, (run {} operations).table.TakesNextFree commandId now) ∧
    ∀ before between first firstTime second secondTime sequence,
      HasRoom {} (before ++ (firstTime, .register first) :: between ++ [(secondTime, .register second)]) →
      ((run {} before).table.register first firstTime).1.sequence = sequence →
      ((run {} (before ++ (firstTime, .register first) :: between)).table.register second
        secondTime).1.sequence = sequence →
      ∃ passed, (∀ numbers, ComesTo (run {} (before ++ [(firstTime, .register first)]))
          (between ++ [(secondTime, .register second)]) numbers ↔ numbers = passed ++ [sequence]) ∧
        ∀ other, IsSequence other → other ≠ sequence → other ∈ passed := by
  have listed : ∀ operations, IsSequence (run {} operations).table.next :=
    isSequence_next_run accounts_new.next
  refine ⟨fun operations room => takesNextFree (listed operations) room, ?_⟩
  intro before between first firstTime second secondTime sequence room issued again
  obtain ⟨roomBetween, roomThen⟩ := hasRoom_append.mp room
  obtain ⟨_, _, roomBehind⟩ := hasRoom_append.mp roomBetween
  rw [run_append] at again roomThen ⊢
  subst issued
  exact comesTo_again (isSequence_freeSequence (listed before)) rfl roomBehind roomThen again

def oneByOne : Nat → List (Nat × Operation)
  | 0 => []
  | count + 1 => (0, .register .enquireLink) :: (0, .failAll) :: oneByOne count

theorem oneByOne_spec {usage : Usage} (idle : usage.table.requests = []) (count : Nat) :
    usage.HasRoom (oneByOne count) ∧ (usage.run (oneByOne count)).table.requests = [] ∧
      (usage.run (oneByOne count)).table.next = following^[count] usage.table.next := by
  induction count generalizing usage with
  | zero => exact ⟨trivial, idle, rfl⟩
  | succ count ih =>
      have empty : usage.table.size = 0 := by rw [size, idle, List.length_nil]
      have free : usage.table.freeSequence = usage.table.next := by
        rw [freeSequence, idle, List.length_nil, findFree]
      have again : ((usage.perform 0 (.register .enquireLink)).perform 0 .failAll).table.requests = [] :=
        failAll_eq.2
      obtain ⟨room, ended, next⟩ := ih again
      refine ⟨⟨fun _ => ?_, fun impossible => ?_, room⟩, ended, ?_⟩
      · rw [empty]
        decide
      · cases impossible
      · rw [Function.iterate_succ_apply, ← free]
        exact next

theorem oneByOne_around {count : Nat} (around : following^[count] (following 1) = 1) :
    HasRoom {} ([] ++ (0, .register .enquireLink) :: ((0, .failAll) :: oneByOne count) ++
        [(0, .register .submitSm)]) ∧
      ((run {} ([] ++ (0, .register .enquireLink) :: ((0, .failAll) :: oneByOne count))).table.register
        .submitSm 0).1.sequence = 1 := by
  let answered := run {} [(0, .register .enquireLink), (0, .failAll)]
  obtain ⟨room, idle, next⟩ := oneByOne_spec (rfl : answered.table.requests = []) count
  have empty : (answered.run (oneByOne count)).table.size = 0 := by rw [size, idle, List.length_nil]
  constructor
  · refine hasRoom_append.mpr ⟨⟨fun _ => by decide, fun impossible => ?_, room⟩, fun _ => ?_, trivial⟩
    · cases impossible
    · change (answered.run (oneByOne count)).table.size < lastSequence.toNat
      rw [empty]
      decide
  · change (answered.run (oneByOne count)).table.freeSequence = 1
    rw [freeSequence, idle, List.length_nil, findFree, next]
    exact around

theorem search_goes_round_sample :
    (run {} sampleStart).table.size < 0x7FFFFFFF ∧
      (run {} sampleStart).table.TakesNextFree .submitSm 10 ∧
      ∃ passed, (∀ numbers, ComesTo (run {} ([] ++ [(0, .register .enquireLink)]))
          ((0, .failAll) :: oneByOne (lastSequence.toNat - 1) ++ [(0, .register .submitSm)]) numbers ↔
            numbers = passed ++ [1]) ∧
        ∀ other, IsSequence other → other ≠ 1 → other ∈ passed := by
  have room : (run {} sampleStart).table.size < 0x7FFFFFFF := by decide
  obtain ⟨enough, again⟩ := oneByOne_around (iterate_following_back (⟨by decide, by decide⟩ : IsSequence 1))
  obtain ⟨takes, round⟩ := search_goes_round
  exact ⟨room, takes _ room _ _, round [] ((0, .failAll) :: oneByOne (lastSequence.toNat - 1)) .enquireLink 0
    .submitSm 0 1 enough rfl again⟩

end Usage

end Smpp
