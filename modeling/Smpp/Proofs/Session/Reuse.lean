import Smpp.Proofs.Session.Numbering
import Smpp.Proofs.Session.Tickets

/-!
How long a number stays with the request that it was given to. The numbers go round, so that the search
has to pass all the others before it comes back to one. Those that it passes are given out, or they
are those of requests that were there before; a table in which so many numbers are left gives none of
them twice.
-/

namespace Smpp

namespace PendingTable

variable {kind : Outcome → Prop} {before middle after table : PendingTable} {sequence : UInt32}
  {ticket spare : Nat} {request : PendingRequest}

theorem Evolves.isSequence_next (evolves : before.Evolves kind after) (listed : IsSequence before.next) :
    IsSequence after.next := by
  induction evolves with
  | refl => exact listed
  | register _ _ _ _ => exact isSequence_following _
  | retire _ _ _ ih => exact ih

/-- The number belongs to the request with this ticket, or to none, and at least so many requests more
get other numbers. -/
structure Reserves (table : PendingTable) (sequence : UInt32) (ticket spare : Nat) : Prop where
  listed : IsSequence table.next
  own : ∀ request ∈ table.requests, request.sequence = sequence → request.ticket = ticket
  distant : ∃ distance < lastSequence.toNat, following^[distance] table.next = sequence ∧
    spare + table.inUse table.next distance ≤ distance

theorem Reserves.mono {fewer : Nat} (reserves : table.Reserves sequence ticket spare)
    (bound : fewer ≤ spare) : table.Reserves sequence ticket fewer where
  listed := reserves.listed
  own := reserves.own
  distant := by
    obtain ⟨distance, near, reached, far⟩ := reserves.distant
    exact ⟨distance, near, reached, by omega⟩

theorem reserves_register (listed : IsSequence table.next) (room : table.size < lastSequence.toNat)
    (commandId : CommandId) (now : Nat) :
    (table.register commandId now).2.Reserves table.freeSequence table.issued
      (lastSequence.toNat - 1 - table.size) := by
  obtain ⟨_, _, _, _, free⟩ := freeSequence_spec listed room
  have last : lastSequence.toNat - 1 < lastSequence.toNat := Nat.sub_lt (by decide) Nat.one_pos
  have around := iterate_following_back (isSequence_freeSequence listed)
  constructor
  · exact isSequence_following _
  · intro request member same
    rcases List.mem_cons.mp member with rfl | old
    · rfl
    · rw [isOutstanding_iff.mpr ⟨request, old, same⟩] at free
      cases free
  · refine ⟨lastSequence.toNat - 1, last, around, ?_⟩
    -- Of the numbers in between the new request has none, so that those in use are of older requests.
    have older : (table.register commandId now).2.inUse (following table.freeSequence)
        (lastSequence.toNat - 1) ≤ table.inUse (following table.freeSequence) (lastSequence.toNat - 1) := by
      apply inUse_mono
      intro place near used
      rw [isOutstanding_register_iff] at used
      rcases used with same | used
      · have equal := iterate_following_inj (isSequence_following _) last (by omega) (around.trans same)
        omega
      · exact used
    have few := table.inUse_le_size (isSequence_following table.freeSequence)
      (Nat.sub_le lastSequence.toNat 1)
    change lastSequence.toNat - 1 - table.size +
      (table.register commandId now).2.inUse (following table.freeSequence) (lastSequence.toNat - 1) ≤
        lastSequence.toNat - 1
    omega

theorem Reserves.register (reserves : table.Reserves sequence ticket (spare + 1)) (commandId : CommandId)
    (now : Nat) : (table.register commandId now).2.Reserves sequence ticket spare := by
  obtain ⟨distance, near, reached, far⟩ := reserves.distant
  obtain ⟨steps, _, found, passed, _⟩ := table.findFree_spec table.requests.length table.next
  have same : table.freeSequence = following^[steps] table.next := found
  -- Not all the numbers up to the reserved one are in use, and so the search stops before it.
  have short : steps < distance := by
    by_contra beyond
    have all : table.inUse table.next distance = distance := by
      apply inUse_of_all
      intro place inside
      exact passed place (by omega)
    omega
  constructor
  · exact isSequence_following _
  · intro request member number
    rcases List.mem_cons.mp member with rfl | old
    · have meets : following^[steps] table.next = following^[distance] table.next := by
        rw [reached, ← same]
        exact number
      have equal := iterate_following_inj reserves.listed (by omega) near meets
      omega
    · exact reserves.own request old number
  · have next : (table.register commandId now).2.next = following^[steps + 1] table.next := by
      rw [Function.iterate_succ_apply', ← same]
      rfl
    have reaches : following^[distance - (steps + 1)] (table.register commandId now).2.next = sequence := by
      rw [next, ← Function.iterate_add_apply, ← reached]
      congr 1
      omega
    refine ⟨distance - (steps + 1), by omega, reaches, ?_⟩
    have ahead : (table.register commandId now).2.inUse (table.register commandId now).2.next
        (distance - (steps + 1)) ≤
          table.inUse (following^[steps + 1] table.next) (distance - (steps + 1)) := by
      rw [next]
      apply inUse_mono
      intro place inside used
      rw [isOutstanding_register_iff, same] at used
      rcases used with meets | used
      · rw [← Function.iterate_add_apply] at meets
        have equal := iterate_following_inj reserves.listed (by omega) (by omega) meets
        omega
      · exact used
    have behind : table.inUse table.next steps = steps := inUse_of_all passed
    have splits := table.inUse_add table.next (steps + 1) (distance - (steps + 1))
    have grows := table.inUse_add table.next steps 1
    have whole : steps + 1 + (distance - (steps + 1)) = distance := by omega
    rw [whole] at splits
    omega

theorem Reserves.retire (reserves : table.Reserves sequence ticket spare)
    (leaves : PendingRequest → Bool) (outcome : Outcome) :
    (table.retire leaves outcome).2.Reserves sequence ticket spare := by
  obtain ⟨distance, near, reached, far⟩ := reserves.distant
  constructor
  · exact reserves.listed
  · intro request member number
    exact reserves.own request (mem_retire.mp member).1 number
  · refine ⟨distance, near, reached, ?_⟩
    have fewer : (table.retire leaves outcome).2.inUse table.next distance ≤
        table.inUse table.next distance := by
      apply inUse_mono
      intro place _ used
      obtain ⟨request, member, number⟩ := isOutstanding_iff.mp used
      exact isOutstanding_iff.mpr ⟨request, (mem_retire.mp member).1, number⟩
    change spare + (table.retire leaves outcome).2.inUse table.next distance ≤ distance
    omega

theorem Reserves.evolves (reserves : before.Reserves sequence ticket spare)
    (evolves : before.Evolves kind after) (enough : after.issued - before.issued ≤ spare) :
    after.Reserves sequence ticket (spare - (after.issued - before.issued)) := by
  induction evolves with
  | refl =>
      rw [Nat.sub_self]
      exact reserves
  | @register middle earlier commandId now ih =>
      have issued : (middle.register commandId now).2.issued = middle.issued + 1 := rfl
      have grown := earlier.size_le.1
      rw [issued] at enough ⊢
      refine ((ih (by omega)).mono ?_).register commandId now
      omega
  | @retire middle earlier leaves outcome _ ih =>
      have issued : (middle.retire leaves outcome).2.issued = middle.issued := rfl
      rw [issued] at enough ⊢
      exact (ih enough).retire leaves outcome

theorem reserves_of_evolves (evolves : before.Evolves kind after) (ticketed : before.Ticketed)
    (listed : IsSequence before.next) (member : request ∈ after.requests)
    (since : before.issued ≤ request.ticket)
    (room : before.size + (after.issued - before.issued) ≤ lastSequence.toNat) :
    after.Reserves request.sequence request.ticket
      (lastSequence.toNat - before.size - (after.issued - before.issued)) := by
  induction evolves with
  | refl =>
      have given := ticketed.ticket_lt member
      omega
  | @register middle earlier commandId now ih =>
      have issued : (middle.register commandId now).2.issued = middle.issued + 1 := rfl
      have sizes := earlier.size_le
      rw [issued] at room ⊢
      rcases List.mem_cons.mp member with rfl | old
      · have sequences := earlier.isSequence_next listed
        refine (reserves_register sequences ?_ commandId now).mono ?_
        · omega
        · omega
      · refine ((ih old (by omega)).mono ?_).register commandId now
        omega
  | @retire middle earlier leaves outcome _ ih =>
      have issued : (middle.retire leaves outcome).2.issued = middle.issued := rfl
      rw [issued] at room ⊢
      exact (ih (mem_retire.mp member).1 room).retire leaves outcome

/-- While numbers are left, the number of a request is not given to another, be the first one still there
or not. -/
theorem ticket_of_sequence (evolves : before.Evolves kind middle) (further : middle.Evolves kind after)
    (ticketed : before.Ticketed) (listed : IsSequence before.next) (member : request ∈ middle.requests)
    (since : before.issued ≤ request.ticket)
    (room : before.size + (after.issued - before.issued) ≤ lastSequence.toNat) :
    ∀ other ∈ after.requests, other.sequence = request.sequence → other.ticket = request.ticket := by
  have grown := evolves.size_le.1
  have grows := further.size_le.1
  have reserved := reserves_of_evolves evolves ticketed listed member since (by omega)
  exact (reserved.evolves further (by omega)).own

theorem ticket_of_registered {commandId : CommandId} {now : Nat} (ticketed : before.Ticketed)
    (listed : IsSequence before.next) (evolves : (before.register commandId now).2.Evolves kind after)
    (room : before.size + (after.issued - before.issued) ≤ lastSequence.toNat) :
    ∀ other ∈ after.requests, other.sequence = before.freeSequence → other.ticket = before.issued := by
  have joins : before.Evolves kind (before.register commandId now).2 := .register .refl commandId now
  have waits : ⟨before.freeSequence, commandId, before.issued, now⟩ ∈
      (before.register commandId now).2.requests := List.mem_cons_self
  exact ticket_of_sequence joins evolves ticketed listed waits (Nat.le_refl _) room

end PendingTable

end Smpp
