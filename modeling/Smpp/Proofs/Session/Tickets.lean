import Mathlib.Data.List.Nodup
import Mathlib.Data.List.Perm.Basic
import Smpp.Session.Pending

/-!
What becomes of a request in a table that others use too. Its ticket is its own, so that the outcome
which takes it out of the table is what it resolves to, for good, and nobody else's.
-/

namespace Smpp

def PendingRequest.handle (request : PendingRequest) : PendingHandle :=
  ⟨request.sequence, request.commandId, request.ticket⟩

namespace PendingTable

section

variable {table : PendingTable} {leaves : PendingRequest → Bool} {outcome : Outcome}

theorem mem_takeOut {request : PendingRequest} :
    request ∈ (table.takeOut leaves).2.requests ↔ request ∈ table.requests ∧ leaves request = false := by
  simp only [takeOut, List.mem_filter, Bool.not_eq_true']

theorem mem_leaving {request : PendingRequest} :
    request ∈ (table.takeOut leaves).1 ↔ request ∈ table.requests ∧ leaves request = true := by
  simp only [takeOut, List.mem_filter]

theorem mem_retire {request : PendingRequest} :
    request ∈ (table.retire leaves outcome).2.requests ↔
      request ∈ table.requests ∧ leaves request = false := mem_takeOut

theorem size_retire :
    (table.retire leaves outcome).1 + (table.retire leaves outcome).2.size = table.size := by
  have splits := (List.filter_append_perm leaves table.requests).length_eq
  rw [List.length_append] at splits
  exact splits

theorem takeOut_of_none (none : ∀ request ∈ table.requests, leaves request = false) :
    table.takeOut leaves = ([], table) := by
  have leaving : table.requests.filter leaves = [] := by
    rw [List.filter_eq_nil_iff]
    intro request member
    rw [none request member]
    exact Bool.false_ne_true
  have staying : table.requests.filter (fun request => !leaves request) = table.requests := by
    rw [List.filter_eq_self]
    intro request member
    rw [none request member]
    rfl
  simp only [takeOut, leaving, staying]

theorem retire_of_none (none : ∀ request ∈ table.requests, leaves request = false) :
    table.retire leaves outcome = (0, table) := by
  rw [retire, takeOut_of_none none]
  rfl

theorem complete_eq_true_iff {sequence : UInt32} :
    (table.complete sequence outcome).1 = true ↔
      ∃ request ∈ table.requests, request.sequence = sequence := by
  simp only [complete, retire, takeOut, bne_iff_ne, ne_eq, List.length_eq_zero_iff, List.filter_eq_nil_iff,
    beq_iff_eq, not_forall, not_not]
  constructor
  · rintro ⟨request, member, same⟩
    exact ⟨request, member, same⟩
  · rintro ⟨request, member, same⟩
    exact ⟨request, member, same⟩

theorem mem_complete {sequence : UInt32} {request : PendingRequest} :
    request ∈ (table.complete sequence outcome).2.requests ↔
      request ∈ table.requests ∧ request.sequence ≠ sequence := by
  simp only [complete, mem_retire, beq_eq_false_iff_ne]

theorem mem_lapse {handle : PendingHandle} {request : PendingRequest} :
    request ∈ (table.lapse handle).requests ↔
      request ∈ table.requests ∧ request.sequence ≠ handle.sequence := mem_complete

theorem complete_of_free {sequence : UInt32}
    (free : ∀ request ∈ table.requests, request.sequence ≠ sequence) :
    table.complete sequence outcome = (false, table) := by
  have none : ∀ request ∈ table.requests, (request.sequence == sequence) = false := by
    intro request member
    exact beq_eq_false_iff_ne.mpr (free request member)
  simp only [complete, retire_of_none none, bne_self_eq_false]

theorem mem_expire {now age : Nat} {request : PendingRequest} :
    request ∈ (table.expire now age).2.requests ↔
      request ∈ table.requests ∧ now - request.registeredAt < age := by
  simp only [expire, mem_retire, decide_eq_false_iff_not, Nat.not_le]

theorem failAll_eq : table.failAll.1 = table.size ∧ table.failAll.2.requests = [] := by
  simp [failAll, retire, takeOut, resolve, size]

theorem outcome?_eq_some_iff {handle : PendingHandle} (once : (table.resolved.map Prod.fst).Nodup) :
    table.outcome? handle = some outcome ↔ (handle.ticket, outcome) ∈ table.resolved := by
  unfold outcome?
  rw [List.lookup_eq_some_iff]
  constructor
  · rintro ⟨before, after, same, _⟩
    rw [same]
    exact List.mem_append_right _ List.mem_cons_self
  · intro member
    obtain ⟨before, after, same⟩ := List.append_of_mem member
    refine ⟨before, after, same, ?_⟩
    intro entry earlier
    rw [same, List.map_append, List.map_cons] at once
    have apart := (List.nodup_append.mp once).2.2 entry.1 (List.mem_map_of_mem earlier)
      handle.ticket List.mem_cons_self
    exact bne_iff_ne.mpr apart.symm

end

def tickets (table : PendingTable) : List Nat :=
  table.requests.map PendingRequest.ticket ++ table.resolved.map Prod.fst

structure Ticketed (table : PendingTable) : Prop where
  issued : ∀ ticket ∈ table.tickets, ticket < table.issued
  once : table.tickets.Nodup

theorem ticketed_new : Ticketed {} where
  issued := by
    intro ticket member
    cases member
  once := List.nodup_nil

section

variable {table : PendingTable} {leaves : PendingRequest → Bool} {outcome : Outcome}

theorem tickets_takeOut :
    ((table.takeOut leaves).1.map PendingRequest.ticket ++ (table.takeOut leaves).2.tickets).Perm
      table.tickets := by
  have splits := (List.filter_append_perm leaves table.requests).map PendingRequest.ticket
  rw [List.map_append] at splits
  simp only [tickets, takeOut]
  rw [← List.append_assoc]
  exact splits.append_right _

theorem tickets_resolve {leaving : List PendingRequest} :
    (table.resolve leaving outcome).tickets.Perm (leaving.map PendingRequest.ticket ++ table.tickets) := by
  simp only [tickets, resolve, List.map_append, List.map_map, Function.comp_def]
  rw [← List.append_assoc, ← List.append_assoc]
  exact List.perm_append_comm.append_right _

theorem tickets_retire : (table.retire leaves outcome).2.tickets.Perm table.tickets :=
  tickets_resolve.trans tickets_takeOut

theorem Ticketed.register (ticketed : table.Ticketed) (commandId : CommandId) (now : Nat) :
    (table.register commandId now).2.Ticketed where
  issued := by
    intro ticket member
    rcases List.mem_cons.mp member with rfl | old
    · exact Nat.lt_succ_self _
    · exact Nat.lt_succ_of_lt (ticketed.issued ticket old)
  once := by
    refine List.nodup_cons.mpr ⟨fun member => ?_, ticketed.once⟩
    exact Nat.lt_irrefl _ (ticketed.issued _ member)

theorem Ticketed.retire (ticketed : table.Ticketed) (leaves : PendingRequest → Bool) (outcome : Outcome) :
    (table.retire leaves outcome).2.Ticketed where
  issued := by
    intro ticket member
    exact ticketed.issued ticket (tickets_retire.mem_iff.mp member)
  once := tickets_retire.nodup_iff.mpr ticketed.once

theorem Ticketed.resolved_once (ticketed : table.Ticketed) : (table.resolved.map Prod.fst).Nodup :=
  (List.nodup_append.mp ticketed.once).2.1

theorem Ticketed.ticket_lt (ticketed : table.Ticketed) {request : PendingRequest}
    (member : request ∈ table.requests) : request.ticket < table.issued :=
  ticketed.issued request.ticket (List.mem_append_left _ (List.mem_map_of_mem member))

theorem Ticketed.waiting (ticketed : table.Ticketed) {request : PendingRequest}
    (member : request ∈ table.requests) : table.outcome? request.handle = none := by
  rw [Option.eq_none_iff_forall_ne_some]
  intro outcome resolved
  have inside := (outcome?_eq_some_iff ticketed.resolved_once).mp resolved
  have apart := (List.nodup_append.mp ticketed.once).2.2 request.ticket (List.mem_map_of_mem member)
    request.ticket (List.mem_map_of_mem inside)
  exact apart rfl

theorem Ticketed.outcome?_resolve {leaving : List PendingRequest}
    (ticketed : (table.resolve leaving outcome).Ticketed) {handle : PendingHandle} {found : Outcome} :
    (table.resolve leaving outcome).outcome? handle = some found ↔
      (found = outcome ∧ ∃ request ∈ leaving, request.ticket = handle.ticket) ∨
        (handle.ticket, found) ∈ table.resolved := by
  rw [outcome?_eq_some_iff ticketed.resolved_once]
  simp only [PendingTable.resolve, List.mem_append, List.mem_map, Prod.mk.injEq]
  constructor
  · rintro (⟨request, member, same, rfl⟩ | resolved)
    · exact Or.inl ⟨rfl, request, member, same⟩
    · exact Or.inr resolved
  · rintro (⟨rfl, request, member, same⟩ | resolved)
    · exact Or.inl ⟨request, member, same, rfl⟩
    · exact Or.inr resolved

theorem Ticketed.outcome?_retire (ticketed : table.Ticketed) {handle : PendingHandle} {found : Outcome} :
    (table.retire leaves outcome).2.outcome? handle = some found ↔
      (found = outcome ∧ ∃ request ∈ table.requests, leaves request = true ∧ request.ticket = handle.ticket) ∨
      table.outcome? handle = some found := by
  have retired : ((table.takeOut leaves).2.resolve (table.takeOut leaves).1 outcome).Ticketed :=
    ticketed.retire leaves outcome
  rw [outcome?_eq_some_iff ticketed.resolved_once]
  refine retired.outcome?_resolve.trans ?_
  simp only [takeOut, List.mem_filter, and_assoc]

theorem Ticketed.outcome?_of_leaving (ticketed : table.Ticketed) {request : PendingRequest}
    (member : request ∈ table.requests) (leaving : leaves request = true) :
    (table.retire leaves outcome).2.outcome? request.handle = some outcome :=
  ticketed.outcome?_retire.mpr (Or.inl ⟨rfl, request, member, leaving, rfl⟩)

theorem Ticketed.outcome?_giveUp {handle : PendingHandle} (ticketed : table.Ticketed)
    (stands : (∃ request ∈ table.requests, request.handle = handle) ∨
      ∃ outcome, table.outcome? handle = some outcome) :
    (table.giveUp handle).2.outcome? handle = some (table.giveUp handle).1 := by
  unfold giveUp
  cases resolved : table.outcome? handle with
  | some outcome => exact resolved
  | none =>
      rcases stands with ⟨request, waits, rfl⟩ | ⟨outcome, known⟩
      · exact ticketed.outcome?_of_leaving waits (beq_self_eq_true request.sequence)
      · rw [resolved] at known
        cases known

structure Settles (before after : PendingTable) (sequence : UInt32) (outcome : Outcome) : Prop where
  resolved : ∀ request ∈ before.requests, request.sequence = sequence →
    before.outcome? request.handle = none ∧ after.outcome? request.handle = some outcome
  remaining : ∀ request, request ∈ after.requests ↔ request ∈ before.requests ∧ request.sequence ≠ sequence
  untouched : ∀ handle : PendingHandle,
    (∀ request ∈ before.requests, request.sequence = sequence → request.ticket ≠ handle.ticket) →
      after.outcome? handle = before.outcome? handle

theorem Ticketed.settles_complete (ticketed : table.Ticketed) (sequence : UInt32) (outcome : Outcome) :
    table.Settles (table.complete sequence outcome).2 sequence outcome where
  resolved := by
    intro request member same
    exact ⟨ticketed.waiting member, ticketed.outcome?_of_leaving member (beq_iff_eq.mpr same)⟩
  remaining request := mem_complete
  untouched := by
    intro handle apart
    ext found
    refine ticketed.outcome?_retire.trans ⟨?_, Or.inr⟩
    rintro (⟨_, request, member, same, ticket⟩ | resolved)
    · exact absurd ticket (apart request member (beq_iff_eq.mp same))
    · exact resolved

end

structure AltersOnly (before after : PendingTable) (ticket : Nat) : Prop where
  requests : ∀ request : PendingRequest, request.ticket ≠ ticket →
    (request ∈ after.requests ↔ request ∈ before.requests)
  outcomes : ∀ handle : PendingHandle, handle.ticket ≠ ticket →
    after.outcome? handle = before.outcome? handle

section

variable {table : PendingTable} {ticket : Nat}

theorem altersOnly_refl (table : PendingTable) (ticket : Nat) : table.AltersOnly table ticket :=
  ⟨fun _ _ => Iff.rfl, fun _ _ => rfl⟩

theorem AltersOnly.trans {first second third : PendingTable} (earlier : first.AltersOnly second ticket)
    (later : second.AltersOnly third ticket) : first.AltersOnly third ticket where
  requests request other := (later.requests request other).trans (earlier.requests request other)
  outcomes handle other := (later.outcomes handle other).trans (earlier.outcomes handle other)

theorem altersOnly_register (table : PendingTable) (commandId : CommandId) (now : Nat) :
    table.AltersOnly (table.register commandId now).2 table.issued where
  requests := by
    intro request other
    constructor
    · intro member
      rcases List.mem_cons.mp member with rfl | old
      · exact absurd rfl other
      · exact old
    · exact List.mem_cons_of_mem _
  outcomes _ _ := rfl

theorem Ticketed.altersOnly_retire (ticketed : table.Ticketed) {leaves : PendingRequest → Bool}
    (only : ∀ request ∈ table.requests, leaves request = true → request.ticket = ticket)
    (outcome : Outcome) : table.AltersOnly (table.retire leaves outcome).2 ticket where
  requests := by
    intro request other
    rw [mem_retire]
    constructor
    · exact And.left
    · intro member
      refine ⟨member, ?_⟩
      by_contra leaving
      exact other (only request member (by simpa using leaving))
  outcomes := by
    intro handle other
    ext found
    refine ticketed.outcome?_retire.trans ⟨?_, Or.inr⟩
    rintro (⟨_, request, member, leaving, same⟩ | resolved)
    · exact absurd (same.symm.trans (only request member leaving)) other
    · exact resolved

theorem Ticketed.altersOnly_complete (ticketed : table.Ticketed) {sequence : UInt32}
    (own : ∀ request ∈ table.requests, request.sequence = sequence → request.ticket = ticket)
    (outcome : Outcome) : table.AltersOnly (table.complete sequence outcome).2 ticket := by
  apply ticketed.altersOnly_retire
  intro request member leaving
  exact own request member (beq_iff_eq.mp leaving)

end

/-- Requests have joined the table, and others have left it with outcomes of one kind. -/
inductive Evolves (kind : Outcome → Prop) (before : PendingTable) : PendingTable → Prop
  | refl : Evolves kind before before
  | register {middle : PendingTable} (earlier : before.Evolves kind middle) (commandId : CommandId)
      (now : Nat) : Evolves kind before (middle.register commandId now).2
  | retire {middle : PendingTable} (earlier : before.Evolves kind middle) (leaves : PendingRequest → Bool)
      {outcome : Outcome} (fitting : kind outcome) : Evolves kind before (middle.retire leaves outcome).2

section

variable {kind : Outcome → Prop} {before after : PendingTable}

theorem Evolves.trans {middle : PendingTable} (first : before.Evolves kind middle)
    (second : middle.Evolves kind after) : before.Evolves kind after := by
  induction second with
  | refl => exact first
  | register _ commandId now ih => exact .register ih commandId now
  | retire _ leaves fitting ih => exact .retire ih leaves fitting

theorem Evolves.mono {other : Outcome → Prop} (evolves : before.Evolves kind after)
    (wider : ∀ outcome, kind outcome → other outcome) : before.Evolves other after := by
  induction evolves with
  | refl => exact .refl
  | register _ commandId now ih => exact .register ih commandId now
  | retire _ leaves fitting ih => exact .retire ih leaves (wider _ fitting)

theorem Ticketed.evolves (ticketed : before.Ticketed) (evolves : before.Evolves kind after) :
    after.Ticketed := by
  induction evolves with
  | refl => exact ticketed
  | register _ commandId now ih => exact ih.register commandId now
  | retire _ leaves _ ih => exact ih.retire leaves _

theorem Evolves.outcome?_eq (evolves : before.Evolves kind after) (ticketed : before.Ticketed)
    {handle : PendingHandle} {outcome : Outcome} (resolved : before.outcome? handle = some outcome) :
    after.outcome? handle = some outcome := by
  induction evolves with
  | refl => exact resolved
  | register _ _ _ ih => exact ih
  | retire earlier _ _ ih => exact (ticketed.evolves earlier).outcome?_retire.mpr (Or.inr ih)

theorem Evolves.waits_or_resolved (evolves : before.Evolves kind after) (ticketed : before.Ticketed)
    {request : PendingRequest} (member : request ∈ before.requests) :
    request ∈ after.requests ∨ ∃ outcome, kind outcome ∧ after.outcome? request.handle = some outcome := by
  induction evolves with
  | refl => exact Or.inl member
  | register _ _ _ ih =>
      rcases ih with waits | resolved
      · exact Or.inl (List.mem_cons_of_mem _ waits)
      · exact Or.inr resolved
  | @retire middle earlier leaves outcome fitting ih =>
      have accounts := ticketed.evolves earlier
      rcases ih with waits | ⟨found, fits, resolved⟩
      · cases leaving : leaves request with
        | false => exact Or.inl (mem_retire.mpr ⟨waits, leaving⟩)
        | true =>
            exact Or.inr ⟨outcome, fitting, accounts.outcome?_of_leaving waits leaving⟩
      · exact Or.inr ⟨found, fits, accounts.outcome?_retire.mpr (Or.inr resolved)⟩

theorem Evolves.size_le (evolves : before.Evolves kind after) :
    before.issued ≤ after.issued ∧ after.size + before.issued ≤ before.size + after.issued := by
  induction evolves with
  | refl => exact ⟨Nat.le_refl _, Nat.le_refl _⟩
  | @register middle _ commandId now ih =>
      have joined : (middle.register commandId now).2.size = middle.size + 1 := rfl
      have issued : (middle.register commandId now).2.issued = middle.issued + 1 := rfl
      omega
  | @retire middle _ leaves outcome _ ih =>
      have left : (middle.retire leaves outcome).1 + (middle.retire leaves outcome).2.size = middle.size :=
        size_retire
      have issued : (middle.retire leaves outcome).2.issued = middle.issued := rfl
      omega

theorem Evolves.mem_of_issued (evolves : before.Evolves kind after) {request : PendingRequest}
    (member : request ∈ after.requests) (given : request.ticket < before.issued) :
    request ∈ before.requests := by
  induction evolves with
  | refl => exact member
  | @register middle earlier commandId now ih =>
      rcases List.mem_cons.mp member with rfl | old
      · exact absurd given (Nat.not_lt.mpr earlier.size_le.1)
      · exact ih old
  | retire _ leaves _ ih => exact ih (mem_retire.mp member).1

theorem Ticketed.eq_registered {table : PendingTable} (ticketed : table.Ticketed) {commandId : CommandId}
    {now : Nat} (evolves : (table.register commandId now).2.Evolves kind after) {request : PendingRequest}
    (member : request ∈ after.requests) (same : request.ticket = table.issued) :
    request = ⟨table.freeSequence, commandId, table.issued, now⟩ := by
  have given : request.ticket < (table.register commandId now).2.issued := by
    rw [same]
    exact Nat.lt_succ_self _
  rcases List.mem_cons.mp (evolves.mem_of_issued member given) with own | old
  · exact own
  · have earlier := ticketed.ticket_lt old
    omega

end

structure Apart (table : PendingTable) (tickets : List Nat) : Prop where
  issued : ∀ ticket ∈ tickets, ticket < table.issued
  absent : ∀ ticket ∈ tickets, ticket ∉ table.tickets

section

variable {kind : Outcome → Prop} {table before after : PendingTable} {tickets : List Nat}
  {leaves : PendingRequest → Bool} {leaving : List PendingRequest} {outcome : Outcome}

theorem Apart.register (apart : table.Apart tickets) (commandId : CommandId) (now : Nat) :
    (table.register commandId now).2.Apart tickets where
  issued ticket member := Nat.lt_succ_of_lt (apart.issued ticket member)
  absent := by
    intro ticket member present
    rcases List.mem_cons.mp present with rfl | old
    · exact Nat.lt_irrefl _ (apart.issued _ member)
    · exact apart.absent ticket member old

theorem Apart.retire (apart : table.Apart tickets) (leaves : PendingRequest → Bool) (outcome : Outcome) :
    (table.retire leaves outcome).2.Apart tickets where
  issued := apart.issued
  absent ticket member present := apart.absent ticket member (tickets_retire.mem_iff.mp present)

theorem Apart.evolves (apart : before.Apart tickets) (evolves : before.Evolves kind after) :
    after.Apart tickets := by
  induction evolves with
  | refl => exact apart
  | register _ commandId now ih => exact ih.register commandId now
  | retire _ leaves _ ih => exact ih.retire leaves _

theorem Ticketed.takeOut (ticketed : table.Ticketed) (leaves : PendingRequest → Bool) :
    (table.takeOut leaves).2.Ticketed where
  issued ticket member :=
    ticketed.issued ticket (tickets_takeOut.mem_iff.mp (List.mem_append_right _ member))
  once := (List.nodup_append.mp (tickets_takeOut.nodup_iff.mpr ticketed.once)).2.1

theorem Ticketed.nodup_leaving (ticketed : table.Ticketed) (leaves : PendingRequest → Bool) :
    ((table.takeOut leaves).1.map PendingRequest.ticket).Nodup :=
  (List.nodup_append.mp (tickets_takeOut.nodup_iff.mpr ticketed.once)).1

theorem Ticketed.apart_leaving (ticketed : table.Ticketed) (leaves : PendingRequest → Bool) :
    (table.takeOut leaves).2.Apart ((table.takeOut leaves).1.map PendingRequest.ticket) where
  issued ticket member :=
    ticketed.issued ticket (tickets_takeOut.mem_iff.mp (List.mem_append_left _ member))
  absent ticket member present :=
    (List.nodup_append.mp (tickets_takeOut.nodup_iff.mpr ticketed.once)).2.2 ticket member ticket present rfl

theorem Ticketed.resolve (ticketed : table.Ticketed)
    (apart : table.Apart (leaving.map PendingRequest.ticket))
    (once : (leaving.map PendingRequest.ticket).Nodup) (outcome : Outcome) :
    (table.resolve leaving outcome).Ticketed where
  issued := by
    intro ticket member
    rcases List.mem_append.mp (tickets_resolve.mem_iff.mp member) with left | present
    · exact apart.issued ticket left
    · exact ticketed.issued ticket present
  once := by
    refine tickets_resolve.nodup_iff.mpr (List.nodup_append.mpr ⟨once, ticketed.once, ?_⟩)
    rintro ticket left _ present rfl
    exact apart.absent ticket left present

theorem Apart.outcome?_eq (apart : table.Apart tickets) {handle : PendingHandle}
    (member : handle.ticket ∈ tickets) : table.outcome? handle = none := by
  rw [outcome?, List.lookup_eq_none_iff]
  intro entry resolved
  rw [bne_iff_ne]
  intro same
  apply apart.absent handle.ticket member
  rw [same]
  exact List.mem_append_right _ (List.mem_map_of_mem resolved)

end

section

variable {kind : Outcome → Prop} {before after table : PendingTable}

def Covers (table : PendingTable) : Prop := ∀ ticket < table.issued, ticket ∈ table.tickets

theorem covers_new : Covers {} := fun _ given => absurd given (Nat.not_lt_zero _)

theorem Covers.evolves (covers : before.Covers) (evolves : before.Evolves kind after) : after.Covers := by
  induction evolves with
  | refl => exact covers
  | register _ commandId now ih =>
      intro ticket given
      rcases Nat.lt_succ_iff_lt_or_eq.mp given with earlier | rfl
      · exact List.mem_cons_of_mem _ (ih ticket earlier)
      · exact List.mem_cons_self
  | retire _ leaves _ ih =>
      intro ticket given
      exact tickets_retire.mem_iff.mpr (ih ticket given)

theorem Covers.resolved (covers : table.Covers) (ticketed : table.Ticketed) (empty : table.requests = [])
    {handle : PendingHandle} (given : handle.ticket < table.issued) :
    ∃ outcome, table.outcome? handle = some outcome := by
  have listed := covers handle.ticket given
  rw [tickets, empty, List.map_nil, List.nil_append] at listed
  obtain ⟨⟨ticket, outcome⟩, member, rfl⟩ := List.mem_map.mp listed
  exact ⟨outcome, (outcome?_eq_some_iff ticketed.resolved_once).mpr member⟩

end

end PendingTable

end Smpp
