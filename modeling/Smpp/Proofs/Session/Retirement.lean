import Smpp.Proofs.Session.Numbering
import Smpp.Proofs.Session.Tickets

/-!
Requests leave the table once. A run of operations, in any order and at any times, keeps account of the
handles that it has given out: each belongs to a request that still waits or to one that an operation has
retired, and the handle has resolved to what that operation means for it.
-/

namespace Smpp

/-- What can be done to a table. The wait that is over is that for one of the handles given out before. -/
inductive Operation
  | register (commandId : CommandId)
  | complete (sequence : UInt32) (outcome : Outcome)
  | remove (sequence : UInt32)
  | expire (age : Nat)
  | failAll
  | giveUp (index : Nat)

namespace Operation

def verdict : Operation → Option Outcome
  | register _ => none
  | complete _ outcome => some outcome
  | remove _ => some (.error .connectionLost)
  | expire _ => some (.error .timeout)
  | failAll => some (.error .connectionLost)
  | giveUp _ => some (.error .timeout)

def isRegister : Operation → Bool
  | register _ => true
  | _ => false

end Operation

structure Usage where
  table : PendingTable := {}
  handles : List PendingHandle := []

structure Retirement where
  request : PendingRequest
  operation : Operation

namespace Usage

def perform (usage : Usage) (time : Nat) : Operation → Usage
  | .register commandId =>
      let (handle, table) := usage.table.register commandId time
      { table, handles := usage.handles ++ [handle] }
  | .complete sequence outcome => { usage with table := (usage.table.complete sequence outcome).2 }
  | .remove sequence => { usage with table := (usage.table.remove sequence).2 }
  | .expire age => { usage with table := (usage.table.expire time age).2 }
  | .failAll => { usage with table := usage.table.failAll.2 }
  | .giveUp index =>
      match usage.handles[index]? with
      | some handle => { usage with table := (usage.table.giveUp handle).2 }
      | none => usage

def retiredBy (usage : Usage) (time : Nat) (operation : Operation) : List PendingRequest :=
  usage.table.requests.filter fun request =>
    !(usage.perform time operation).table.requests.contains request

def run (usage : Usage) : List (Nat × Operation) → Usage
  | [] => usage
  | (time, operation) :: others => (usage.perform time operation).run others

def retirements (usage : Usage) : List (Nat × Operation) → List Retirement
  | [] => []
  | (time, operation) :: others =>
      (usage.retiredBy time operation).map (fun request => ⟨request, operation⟩) ++
        (usage.perform time operation).retirements others

def HasRoom (usage : Usage) : List (Nat × Operation) → Prop
  | [] => True
  | (time, operation) :: others =>
      (operation.isRegister = true → usage.table.size < PendingTable.lastSequence.toNat) ∧
        (usage.perform time operation).HasRoom others

/-- The handles given out are those of the waiting and of the retired requests, each once, and each
retirement has resolved its handle once, to the verdict of its operation. -/
structure Accounts (usage : Usage) (retirements : List Retirement) : Prop where
  next : PendingTable.IsSequence usage.table.next
  listed : ∀ request ∈ usage.table.requests, PendingTable.IsSequence request.sequence
  distinct : (usage.table.requests.map PendingRequest.sequence).Nodup
  tickets : usage.handles.map PendingHandle.ticket = List.range usage.table.issued
  issued : usage.handles.Perm
    (usage.table.requests.map PendingRequest.handle ++
      retirements.map fun retirement => retirement.request.handle)
  resolved : (usage.table.resolved.map fun entry => (entry.1, some entry.2)).Perm
    (retirements.map fun retirement => (retirement.request.ticket, retirement.operation.verdict))

theorem accounts_new : Accounts {} [] where
  next := ⟨by decide, by decide⟩
  listed := by simp
  distinct := List.nodup_nil
  tickets := rfl
  issued := List.Perm.nil
  resolved := List.Perm.nil

theorem Accounts.register {usage : Usage} {retirements : List Retirement}
    (accounts : usage.Accounts retirements) (time : Nat) (commandId : CommandId)
    (room : usage.table.size < PendingTable.lastSequence.toNat) :
    (usage.perform time (.register commandId)).Accounts retirements := by
  obtain ⟨_, _, _, _, free⟩ := PendingTable.freeSequence_spec accounts.next room
  have listed := PendingTable.isSequence_freeSequence accounts.next
  have fresh : usage.table.freeSequence ∉ usage.table.requests.map PendingRequest.sequence := by
    intro member
    obtain ⟨request, inside, same⟩ := List.mem_map.mp member
    rw [PendingTable.isOutstanding_iff.mpr ⟨request, inside, same⟩] at free
    cases free
  constructor
  · exact PendingTable.isSequence_following _
  · intro request member
    rcases List.mem_cons.mp member with rfl | old
    · exact listed
    · exact accounts.listed request old
  · exact List.nodup_cons.mpr ⟨fresh, accounts.distinct⟩
  · simp only [perform, PendingTable.register, List.map_append, accounts.tickets, List.map_cons,
      List.map_nil, List.range_succ]
  · simp only [perform, PendingTable.register, List.map_cons, List.cons_append]
    exact (List.perm_append_singleton _ _).trans (accounts.issued.cons _)
  · exact accounts.resolved

theorem Accounts.retire {usage : Usage} {retirements : List Retirement}
    (accounts : usage.Accounts retirements) (leaves : PendingRequest → Bool) {outcome : Outcome}
    {operation : Operation} (verdict : operation.verdict = some outcome) :
    Accounts { usage with table := (usage.table.retire leaves outcome).2 }
      (retirements ++ (usage.table.requests.filter leaves).map fun request => ⟨request, operation⟩) := by
  have splits := (List.filter_append_perm leaves usage.table.requests).map PendingRequest.handle
  rw [List.map_append] at splits
  constructor
  · exact accounts.next
  · intro request member
    exact accounts.listed request (PendingTable.mem_retire.mp member).1
  · exact accounts.distinct.sublist ((List.filter_sublist).map _)
  · exact accounts.tickets
  -- The handles of the leaving requests go from the front of the account to its end.
  · have regroup := accounts.issued.trans (splits.symm.append_right _)
    rw [List.append_assoc] at regroup
    simp only [List.map_append, List.map_map, Function.comp_def]
    rw [← List.append_assoc]
    exact regroup.trans List.perm_append_comm
  · simp only [PendingTable.retire, PendingTable.takeOut, PendingTable.resolve, List.map_append,
      List.map_map, Function.comp_def, verdict]
    exact (List.Perm.append_left _ accounts.resolved).trans List.perm_append_comm

theorem perform_cases (usage : Usage) (time : Nat) (operation : Operation) :
    (∃ commandId, operation = .register commandId) ∨
      ∃ leaves outcome, operation.verdict = some outcome ∧
        usage.perform time operation =
          { usage with table := (usage.table.retire leaves outcome).2 } := by
  have idle : ∀ outcome, usage = { usage with table := (usage.table.retire (fun _ => false) outcome).2 } := by
    intro outcome
    rw [PendingTable.retire_of_none (fun _ _ => rfl)]
  cases operation with
  | register commandId => exact Or.inl ⟨commandId, rfl⟩
  | complete sequence outcome => exact Or.inr ⟨_, outcome, rfl, rfl⟩
  | remove sequence => exact Or.inr ⟨_, _, rfl, rfl⟩
  | expire age => exact Or.inr ⟨_, _, rfl, rfl⟩
  | failAll => exact Or.inr ⟨_, _, rfl, rfl⟩
  | giveUp index =>
      refine Or.inr ?_
      simp only [perform]
      split
      · simp only [PendingTable.giveUp]
        split
        · exact ⟨_, _, rfl, idle _⟩
        · exact ⟨_, _, rfl, rfl⟩
      · exact ⟨_, _, rfl, idle _⟩

theorem retiredBy_register (usage : Usage) (time : Nat) (commandId : CommandId) :
    usage.retiredBy time (.register commandId) = [] := by
  rw [retiredBy, List.filter_eq_nil_iff]
  intro request member
  have stays : request ∈ (usage.perform time (.register commandId)).table.requests :=
    List.mem_cons_of_mem _ member
  simp only [List.contains_iff_mem.mpr stays, Bool.not_true, Bool.false_eq_true, not_false_eq_true]

theorem retiredBy_retire {usage : Usage} {time : Nat} {operation : Operation}
    {leaves : PendingRequest → Bool} {outcome : Outcome}
    (performed : usage.perform time operation =
      { usage with table := (usage.table.retire leaves outcome).2 }) :
    usage.retiredBy time operation = usage.table.requests.filter leaves := by
  rw [retiredBy, performed]
  refine List.filter_congr fun request member => ?_
  cases leaving : leaves request with
  | true =>
      have gone : request ∉ (usage.table.retire leaves outcome).2.requests := by
        intro stays
        rw [(PendingTable.mem_retire.mp stays).2] at leaving
        cases leaving
      simp only [List.contains_eq_mem, gone, decide_false, Bool.not_false]
  | false =>
      have stays : request ∈ (usage.table.retire leaves outcome).2.requests :=
        PendingTable.mem_retire.mpr ⟨member, leaving⟩
      simp only [List.contains_eq_mem, stays, decide_true, Bool.not_true]

theorem Accounts.perform {usage : Usage} {retirements : List Retirement}
    (accounts : usage.Accounts retirements) (time : Nat) (operation : Operation)
    (room : operation.isRegister = true → usage.table.size < PendingTable.lastSequence.toNat) :
    (usage.perform time operation).Accounts (retirements ++
      (usage.retiredBy time operation).map fun request => ⟨request, operation⟩) := by
  rcases usage.perform_cases time operation with ⟨commandId, rfl⟩ | ⟨leaves, outcome, verdict, performed⟩
  · rw [retiredBy_register, List.map_nil, List.append_nil]
    exact accounts.register time commandId (room rfl)
  · rw [retiredBy_retire performed, performed]
    exact accounts.retire leaves verdict

theorem Accounts.run {usage : Usage} {retirements : List Retirement}
    (accounts : usage.Accounts retirements) (operations : List (Nat × Operation))
    (room : usage.HasRoom operations) :
    (usage.run operations).Accounts (retirements ++ usage.retirements operations) := by
  induction operations generalizing usage retirements with
  | nil =>
      rw [Usage.retirements, List.append_nil]
      exact accounts
  | cons first others ih =>
      obtain ⟨time, operation⟩ := first
      obtain ⟨roomNow, roomLater⟩ := room
      have later := ih (accounts.perform time operation roomNow) roomLater
      rw [List.append_assoc] at later
      exact later

section

variable {usage : Usage} {retirements : List Retirement}

theorem Accounts.ticketed (accounts : usage.Accounts retirements) : usage.table.Ticketed := by
  have settled := accounts.resolved.map Prod.fst
  have given := accounts.issued.map PendingHandle.ticket
  rw [List.map_map, List.map_map] at settled
  rw [accounts.tickets, List.map_append, List.map_map, List.map_map] at given
  have all : usage.table.tickets.Perm (List.range usage.table.issued) :=
    (settled.append_left _).trans given.symm
  exact ⟨fun ticket member => List.mem_range.mp (all.mem_iff.mp member), all.nodup_iff.mpr List.nodup_range⟩

theorem Accounts.outcome?_eq_some_iff (accounts : usage.Accounts retirements) {handle : PendingHandle}
    {outcome : Outcome} :
    usage.table.outcome? handle = some outcome ↔
      ∃ retirement ∈ retirements, retirement.request.ticket = handle.ticket ∧
        retirement.operation.verdict = some outcome := by
  rw [PendingTable.outcome?_eq_some_iff accounts.ticketed.resolved_once]
  have same := accounts.resolved.mem_iff (a := (handle.ticket, some outcome))
  simp only [List.mem_map, Prod.mk.injEq, Option.some.injEq, Prod.exists] at same
  constructor
  · intro member
    exact same.mp ⟨_, _, member, rfl, rfl⟩
  · intro retired
    obtain ⟨ticket, settled, member, rfl, rfl⟩ := same.mpr retired
    exact member

theorem Accounts.verdict (accounts : usage.Accounts retirements) {retirement : Retirement}
    (member : retirement ∈ retirements) : ∃ outcome, retirement.operation.verdict = some outcome := by
  have inside := accounts.resolved.mem_iff.mpr (List.mem_map_of_mem member)
  obtain ⟨entry, _, same⟩ := List.mem_map.mp inside
  exact ⟨entry.2, (congrArg Prod.snd same).symm⟩

theorem Accounts.request_of_unresolved (accounts : usage.Accounts retirements) {handle : PendingHandle}
    (given : handle ∈ usage.handles) (unresolved : usage.table.outcome? handle = none) :
    ∃ request ∈ usage.table.requests, request.handle = handle := by
  rcases List.mem_append.mp (accounts.issued.mem_iff.mp given) with waiting | retired
  · exact List.mem_map.mp waiting
  · obtain ⟨retirement, member, rfl⟩ := List.mem_map.mp retired
    obtain ⟨outcome, verdict⟩ := accounts.verdict member
    rw [accounts.outcome?_eq_some_iff.mpr ⟨retirement, member, rfl, verdict⟩] at unresolved
    cases unresolved

theorem Accounts.eq_of_sequence (accounts : usage.Accounts retirements) {first second : PendingRequest}
    (firstMember : first ∈ usage.table.requests) (secondMember : second ∈ usage.table.requests)
    (same : first.sequence = second.sequence) : first = second :=
  List.inj_on_of_nodup_map accounts.distinct firstMember secondMember same

end

theorem Accounts.evolves {kind : Outcome → Prop} {usage : Usage} {retirements : List Retirement}
    {after : PendingTable} (accounts : usage.Accounts retirements)
    (evolves : usage.table.Evolves kind after)
    (room : usage.table.size + (after.issued - usage.table.issued) ≤ PendingTable.lastSequence.toNat) :
    ∃ (later : Usage) (all : List Retirement), later.table = after ∧ later.Accounts all := by
  induction evolves with
  | refl => exact ⟨usage, retirements, rfl, accounts⟩
  | @register middle earlier commandId now ih =>
      have issued : (middle.register commandId now).2.issued = middle.issued + 1 := rfl
      have sizes := earlier.size_le
      obtain ⟨later, all, rfl, accounted⟩ := ih (by omega)
      exact ⟨_, _, rfl, accounted.register now commandId (by omega)⟩
  | @retire middle earlier leaves outcome fitting ih =>
      have issued : (middle.retire leaves outcome).2.issued = middle.issued := rfl
      rw [issued] at room
      obtain ⟨later, all, rfl, accounted⟩ := ih room
      have verdict : (Operation.complete 0 outcome).verdict = some outcome := rfl
      exact ⟨_, _, rfl, accounted.retire leaves verdict⟩

structure Promises (usage : Usage) : Prop where
  distinct : (usage.table.requests.map PendingRequest.sequence).Nodup
  listed : ∀ request ∈ usage.table.requests,
    1 ≤ request.sequence.toNat ∧ request.sequence.toNat ≤ 0x7FFFFFFF
  register : ∀ commandId now, usage.table.size < 0x7FFFFFFF →
    (∀ request ∈ usage.table.requests,
      request.sequence ≠ (usage.table.register commandId now).1.sequence) ∧
    ∃ added, added.handle = (usage.table.register commandId now).1 ∧ added.registeredAt = now ∧
      (usage.table.register commandId now).2.requests = added :: usage.table.requests
  complete : ∀ sequence outcome,
    ((usage.table.complete sequence outcome).1 = true ↔
      ∃ request ∈ usage.table.requests, request.sequence = sequence) ∧
    ∀ request, request ∈ (usage.table.complete sequence outcome).2.requests ↔
      request ∈ usage.table.requests ∧ request.sequence ≠ sequence
  remove : ∀ sequence,
    ((usage.table.remove sequence).1 = true ↔
      ∃ request ∈ usage.table.requests, request.sequence = sequence) ∧
    ∀ request, request ∈ (usage.table.remove sequence).2.requests ↔
      request ∈ usage.table.requests ∧ request.sequence ≠ sequence
  vacant : ∀ sequence, (∀ request ∈ usage.table.requests, request.sequence ≠ sequence) →
    (∀ outcome, usage.table.complete sequence outcome = (false, usage.table)) ∧
      usage.table.remove sequence = (false, usage.table)
  expire : ∀ now age,
    (usage.table.expire now age).1 + (usage.table.expire now age).2.size = usage.table.size ∧
    ∀ request, request ∈ (usage.table.expire now age).2.requests ↔
      request ∈ usage.table.requests ∧ now - request.registeredAt < age
  failAll : usage.table.failAll.1 = usage.table.size ∧ usage.table.failAll.2.requests = []
  giveUp : ∀ handle ∈ usage.handles,
    (∃ outcome, usage.table.outcome? handle = some outcome ∧
      usage.table.giveUp handle = (outcome, usage.table)) ∨
    (usage.table.giveUp handle).1 = .error .timeout ∧
      (∃ request ∈ usage.table.requests, request.handle = handle) ∧
      ∀ request, request ∈ (usage.table.giveUp handle).2.requests ↔
        request ∈ usage.table.requests ∧ request.handle ≠ handle

theorem Accounts.promises {usage : Usage} {retirements : List Retirement}
    (accounts : usage.Accounts retirements) : usage.Promises where
  distinct := accounts.distinct
  listed := accounts.listed
  register := by
    intro commandId now room
    obtain ⟨_, _, _, _, free⟩ := PendingTable.freeSequence_spec accounts.next room
    refine ⟨fun request member same => ?_, ⟨_, _, _, _⟩, rfl, rfl, rfl⟩
    cases free.symm.trans (PendingTable.isOutstanding_iff.mpr ⟨request, member, same⟩)
  complete := fun sequence outcome =>
    ⟨PendingTable.complete_eq_true_iff, fun request => PendingTable.mem_complete⟩
  remove := fun sequence =>
    ⟨PendingTable.complete_eq_true_iff, fun request => PendingTable.mem_complete⟩
  vacant := fun sequence free =>
    ⟨fun outcome => PendingTable.complete_of_free free, PendingTable.complete_of_free free⟩
  expire := fun now age => ⟨PendingTable.size_retire, fun request => PendingTable.mem_expire⟩
  failAll := PendingTable.failAll_eq
  giveUp := by
    intro handle given
    cases resolved : usage.table.outcome? handle with
    | some outcome =>
        refine Or.inl ⟨outcome, rfl, ?_⟩
        simp only [PendingTable.giveUp, resolved]
    | none =>
        obtain ⟨request, member, rfl⟩ := accounts.request_of_unresolved given resolved
        refine Or.inr ⟨by simp only [PendingTable.giveUp, resolved], ⟨request, member, rfl⟩, ?_⟩
        intro other
        simp only [PendingTable.giveUp, resolved, PendingTable.mem_lapse]
        constructor
        · rintro ⟨inside, different⟩
          exact ⟨inside, fun same => different (congrArg PendingHandle.sequence same)⟩
        · rintro ⟨inside, different⟩
          refine ⟨inside, fun same => different ?_⟩
          rw [accounts.eq_of_sequence inside member same]

theorem retirements_append (usage : Usage) (first second : List (Nat × Operation)) :
    usage.retirements (first ++ second) =
      usage.retirements first ++ (usage.run first).retirements second := by
  induction first generalizing usage with
  | nil => rfl
  | cons step others ih =>
      obtain ⟨time, operation⟩ := step
      rw [List.cons_append, retirements, ih, ← List.append_assoc]
      rfl

theorem length_handles_run (usage : Usage) (operations : List (Nat × Operation)) :
    (usage.run operations).handles.length =
      usage.handles.length + operations.countP fun step => step.2.isRegister := by
  induction operations generalizing usage with
  | nil => rfl
  | cons step others ih =>
      obtain ⟨time, operation⟩ := step
      rw [run, ih, List.countP_cons]
      rcases usage.perform_cases time operation with ⟨commandId, rfl⟩ | ⟨leaves, outcome, verdict, performed⟩
      · simp only [perform, List.length_append, List.length_singleton, Operation.isRegister, ↓reduceIte]
        omega
      · have other : operation.isRegister = false := by
          cases operation with
          | register commandId => cases verdict
          | _ => rfl
        rw [performed, other]
        simp

/-- In every run each request is retired at most once, each handle resolves at most once, and to what the
operation means that retired its request; what is neither retired nor resolved still waits. -/
theorem retired_once (operations : List (Nat × Operation)) (room : HasRoom {} operations) :
    Promises (run {} operations) ∧
    (run {} operations).handles.Perm
      ((run {} operations).table.requests.map PendingRequest.handle ++
        (retirements {} operations).map fun retirement => retirement.request.handle) ∧
    ((run {} operations).handles.map PendingHandle.ticket).Nodup ∧
    (run {} operations).table.size + (retirements {} operations).length =
      operations.countP (fun step => step.2.isRegister) ∧
    (∀ request ∈ (run {} operations).table.requests,
      (run {} operations).table.outcome? request.handle = none) ∧
    (∀ retirement ∈ retirements {} operations, ∃ outcome,
      retirement.operation.verdict = some outcome ∧
        (run {} operations).table.outcome? retirement.request.handle = some outcome) ∧
    ((run {} operations).table.resolved.map Prod.fst).Nodup ∧
    ∀ later, HasRoom {} (operations ++ later) → ∀ handle outcome,
      (run {} operations).table.outcome? handle = some outcome →
        (run {} (operations ++ later)).table.outcome? handle = some outcome := by
  have accounts := accounts_new.run operations room
  rw [List.nil_append] at accounts
  have count := accounts.issued.length_eq
  rw [length_handles_run, List.length_append, List.length_map, List.length_map] at count
  refine ⟨accounts.promises, accounts.issued, ?_, ?_, fun _ => accounts.ticketed.waiting, ?_,
    accounts.ticketed.resolved_once, ?_⟩
  · rw [accounts.tickets]
    exact List.nodup_range
  · rw [PendingTable.size, ← count]
    simp
  · intro retirement member
    obtain ⟨outcome, verdict⟩ := accounts.verdict member
    exact ⟨outcome, verdict, accounts.outcome?_eq_some_iff.mpr ⟨retirement, member, rfl, verdict⟩⟩
  · intro later roomLater handle outcome resolved
    have accountsLater := accounts_new.run (operations ++ later) roomLater
    rw [List.nil_append, retirements_append] at accountsLater
    obtain ⟨retirement, member, same, verdict⟩ := accounts.outcome?_eq_some_iff.mp resolved
    exact accountsLater.outcome?_eq_some_iff.mpr
      ⟨retirement, List.mem_append_left _ member, same, verdict⟩

def sampleStart : List (Nat × Operation) :=
  [(0, .register .submitSm), (5, .register .enquireLink), (9, .complete 1 (.ok ⟨.ok, 1, .submitSmResp "7"⟩))]

def sampleRest : List (Nat × Operation) :=
  [(10, .complete 1 (.error .timeout)), (11, .register .submitSm), (20, .expire 15), (21, .remove 2),
   (30, .giveUp 0), (31, .giveUp 2), (32, .failAll)]

theorem retired_once_sample :
    HasRoom {} sampleStart ∧ HasRoom {} (sampleStart ++ sampleRest) ∧
      (run {} (sampleStart ++ sampleRest)).table.outcome? ⟨1, .submitSm, 0⟩ =
        some (.ok ⟨.ok, 1, .submitSmResp "7"⟩) := by
  have room : HasRoom {} sampleStart := by
    simp only [HasRoom, sampleStart]
    decide
  have roomLater : HasRoom {} (sampleStart ++ sampleRest) := by
    simp only [HasRoom, sampleStart, sampleRest, List.cons_append, List.nil_append]
    decide
  obtain ⟨_, _, _, _, _, _, _, lasts⟩ := retired_once sampleStart room
  exact ⟨room, roomLater, lasts sampleRest roomLater _ _ rfl⟩

end Usage

end Smpp
