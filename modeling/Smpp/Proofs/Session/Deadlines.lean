import Mathlib.Data.List.Induction
import Smpp.Proofs.Session.Waiting

/-!
How a wait ends when others come in between. Whoever takes a request out of the table lets its sender know
in a second step, and a call that has found its deadline over removes its request in a second step. Such a
call has stopped waiting: it returns a timeout, whatever becomes of its request until it has removed it.
-/

namespace Smpp

namespace PendingTable

theorem freeSequence_congr {first second : PendingTable} (requests : first.requests = second.requests)
    (next : first.next = second.next) : first.freeSequence = second.freeSequence := by
  have found : ∀ tries sequence, first.findFree tries sequence = second.findFree tries sequence := by
    intro tries
    induction tries with
    | zero => exact fun _ => rfl
    | succ tries ih =>
        intro sequence
        have outstanding : first.isOutstanding sequence = second.isOutstanding sequence := by
          rw [isOutstanding, requests, isOutstanding]
        rw [findFree, findFree, outstanding, ih]
  rw [freeSequence, freeSequence, requests, next, found]

theorem Stands.eq_of_ticket {table : PendingTable} {handle : PendingHandle} {request : PendingRequest}
    (stands : table.Stands handle) (ticketed : table.Ticketed) (waits : request ∈ table.requests)
    (same : request.ticket = handle.ticket) : request.handle = handle := by
  rcases stands with ⟨own, member, rfl⟩ | ⟨outcome, resolved⟩
  · rw [ticketed.eq_of_ticket waits member same]
  · have unresolved := ticketed.waiting waits
    rw [outcome?, ← same] at resolved
    rw [outcome?] at unresolved
    cases resolved.symm.trans unresolved

end PendingTable

/-- Where a call is that sends a request and waits for what becomes of it. -/
inductive Waiter
  | sending (handle : PendingHandle)
  /-- The request could not be written, and has still to be taken back. -/
  | unsent (handle : PendingHandle) (error : SessionError)
  | waiting (handle : PendingHandle)
  /-- Nothing was there at the deadline, and the request has still to be removed. -/
  | overdue (handle : PendingHandle)
  | returned (handle : PendingHandle) (outcome : Outcome)
  | refused (handle : PendingHandle) (error : SessionError)
  | dropped (handle : PendingHandle)

namespace Waiter

def handle : Waiter → PendingHandle
  | sending handle | unsent handle _ | waiting handle | overdue handle | returned handle _
  | refused handle _ | dropped handle => handle

def isOver : Waiter → Bool
  | returned .. | refused .. | dropped _ => true
  | sending _ | unsent .. | waiting _ | overdue _ => false

def wrote (written : Except SessionError Unit) : Waiter → Waiter
  | sending handle =>
      match written with
      | .ok () => waiting handle
      | .error error => unsent handle error
  | waiter => waiter

def look (table : PendingTable) (late : Bool) : Waiter → Waiter
  | waiting handle =>
      match table.outcome? handle with
      | some outcome => returned handle outcome
      | none => if late then overdue handle else waiting handle
  | waiter => waiter

def drop : Waiter → Waiter
  | sending handle | waiting handle => dropped handle
  | waiter => waiter

end Waiter

structure Traffic where
  link : Link
  calls : List Waiter := []
  /-- Requests that have left the table, with what their senders have still to see. -/
  underway : List (PendingRequest × Outcome) := []

namespace Traffic

/-- What can happen next. A call registers a request; its frame has been written, or has not; the call looks
for an outcome, before its deadline or after it; it removes its request; it is dropped. The listener takes
out the request that a response is for, or those that have waited too long, or all of them. Somebody gets to
see an outcome. Something is done to the rest of what the tasks share. -/
inductive Step
  | register (commandId : CommandId)
  | wrote (call : Nat) (written : Except SessionError Unit)
  | look (call : Nat) (late : Bool)
  | leave (call : Nat)
  | drop (call : Nat)
  | hear (event : Inbound.Event)
  | sweep
  | lose
  | deliver (place : Nat)
  | attend (link : Link)

def takeOut (traffic : Traffic) (leaves : PendingRequest → Bool) (outcome : Outcome) : Traffic :=
  let (leaving, pending) := traffic.link.pending.takeOut leaves
  { traffic with
    link := { traffic.link with pending }
    underway := leaving.map (fun request => (request, outcome)) ++ traffic.underway }

def leave (traffic : Traffic) (call : Nat) : Traffic :=
  match traffic.calls[call]? with
  | some (.overdue handle) =>
      { traffic with
        link := { traffic.link with pending := traffic.link.pending.lapse handle }
        calls := traffic.calls.set call (.returned handle (.error .timeout)) }
  | some (.unsent handle error) =>
      { traffic with
        link := traffic.link.withdraw handle
        calls := traffic.calls.set call (.refused handle error) }
  | _ => traffic

def deliver (traffic : Traffic) (place : Nat) : Traffic :=
  match traffic.underway[place]? with
  | some (request, outcome) =>
      { traffic with
        link := { traffic.link with pending := traffic.link.pending.resolve [request] outcome }
        underway := traffic.underway.eraseIdx place }
  | none => traffic

def take (traffic : Traffic) : Step → Traffic
  | .register commandId =>
      let (handle, link) := traffic.link.register commandId
      { traffic with link, calls := traffic.calls ++ [.sending handle] }
  | .wrote call written => { traffic with calls := traffic.calls.modify call (Waiter.wrote written) }
  | .look call late =>
      { traffic with calls := traffic.calls.modify call (Waiter.look traffic.link.pending late) }
  | .leave call => traffic.leave call
  | .drop call => { traffic with calls := traffic.calls.modify call Waiter.drop }
  | .hear event =>
      match event.response? with
      | some (sequence, outcome) => traffic.takeOut (fun request => request.sequence == sequence) outcome
      | none => traffic
  | .sweep =>
      traffic.takeOut
        (fun request =>
          decide (traffic.link.config.responseTimeout ≤ traffic.link.now - request.registeredAt))
        (.error .timeout)
  | .lose => traffic.takeOut (fun _ => true) (.error .connectionLost)
  | .deliver place => traffic.deliver place
  | .attend link => { traffic with link := { link with pending := traffic.link.pending } }

def run (traffic : Traffic) (steps : List Step) : Traffic := steps.foldl take traffic

@[simp] theorem run_nil (traffic : Traffic) : traffic.run [] = traffic := rfl

@[simp] theorem run_cons (traffic : Traffic) (step : Step) (steps : List Step) :
    traffic.run (step :: steps) = (traffic.take step).run steps := rfl

theorem run_append (traffic : Traffic) (first second : List Step) :
    traffic.run (first ++ second) = (traffic.run first).run second := List.foldl_append

theorem run_concat (traffic : Traffic) (steps : List Step) (step : Step) :
    traffic.run (steps ++ [step]) = (traffic.run steps).take step := List.foldl_concat ..

def starting (config : SessionConfig) (handlers : HandlerTable) (sink : Sink) : Traffic :=
  { link := (Session.starting config handlers sink).link }

section

variable {traffic after : Traffic} {call : Nat} {waiter : Waiter} {step : Step} {ledger : PendingTable}
  {leaves : PendingRequest → Bool} {outcome : Outcome} {request : PendingRequest} {steps : List Step}

inductive Proceeds (traffic : Traffic) (call : Nat) : Waiter → Step → Waiter → Prop
  | sent (handle : PendingHandle) :
      Proceeds traffic call (.sending handle) (.wrote call (.ok ())) (.waiting handle)
  | failed (handle : PendingHandle) (error : SessionError) :
      Proceeds traffic call (.sending handle) (.wrote call (.error error)) (.unsent handle error)
  | saw {handle : PendingHandle} {outcome : Outcome} (late : Bool)
      (resolved : traffic.link.pending.outcome? handle = some outcome) :
      Proceeds traffic call (.waiting handle) (.look call late) (.returned handle outcome)
  | missed {handle : PendingHandle} (unresolved : traffic.link.pending.outcome? handle = none) :
      Proceeds traffic call (.waiting handle) (.look call true) (.overdue handle)
  | removed (handle : PendingHandle) :
      Proceeds traffic call (.overdue handle) (.leave call) (.returned handle (.error .timeout))
  | withdrew (handle : PendingHandle) (error : SessionError) :
      Proceeds traffic call (.unsent handle error) (.leave call) (.refused handle error)
  | droppedSending (handle : PendingHandle) :
      Proceeds traffic call (.sending handle) (.drop call) (.dropped handle)
  | droppedWaiting (handle : PendingHandle) :
      Proceeds traffic call (.waiting handle) (.drop call) (.dropped handle)

theorem Proceeds.handle_eq {first second : Waiter} (proceeds : traffic.Proceeds call first step second) :
    second.handle = first.handle := by
  cases proceeds <;> rfl

theorem Proceeds.going {first second : Waiter} (proceeds : traffic.Proceeds call first step second) :
    first.isOver = false := by
  cases proceeds <;> rfl

theorem proceeds_wrote (traffic : Traffic) (call : Nat) (written : Except SessionError Unit)
    (waiter : Waiter) : waiter.wrote written = waiter ∨
      traffic.Proceeds call waiter (.wrote call written) (waiter.wrote written) := by
  cases waiter with
  | sending handle =>
      cases written with
      | ok done => exact Or.inr (.sent handle)
      | error error => exact Or.inr (.failed handle error)
  | _ => exact Or.inl rfl

theorem proceeds_look (traffic : Traffic) (call : Nat) (late : Bool) (waiter : Waiter) :
    waiter.look traffic.link.pending late = waiter ∨
      traffic.Proceeds call waiter (.look call late) (waiter.look traffic.link.pending late) := by
  cases waiter with
  | waiting handle =>
      cases resolved : traffic.link.pending.outcome? handle with
      | some outcome =>
          simp only [Waiter.look, resolved]
          exact Or.inr (.saw late resolved)
      | none =>
          simp only [Waiter.look, resolved]
          cases late with
          | true => exact Or.inr (.missed resolved)
          | false => exact Or.inl rfl
  | _ => exact Or.inl rfl

theorem proceeds_drop (traffic : Traffic) (call : Nat) (waiter : Waiter) :
    waiter.drop = waiter ∨ traffic.Proceeds call waiter (.drop call) waiter.drop := by
  cases waiter with
  | sending handle => exact Or.inr (.droppedSending handle)
  | waiting handle => exact Or.inr (.droppedWaiting handle)
  | _ => exact Or.inl rfl

theorem call_modify {other : Nat} {next : Waiter → Waiter}
    (goesOn : ∀ before, next before = before ∨ traffic.Proceeds other before step (next before))
    (found : (traffic.calls.modify other next)[call]? = some waiter) :
    traffic.calls[call]? = some waiter ∨
      ∃ before, traffic.calls[call]? = some before ∧ traffic.Proceeds call before step waiter := by
  rw [List.getElem?_modify] at found
  cases present : traffic.calls[call]? with
  | none =>
      rw [present] at found
      cases found
  | some before =>
      rw [present] at found
      by_cases same : other = call
      · subst same
        simp only [if_true, Option.map_eq_map, Option.map_some, Option.some.injEq] at found
        subst found
        rcases goesOn before with stays | proceeds
        · rw [stays]
          exact Or.inl rfl
        · exact Or.inr ⟨before, rfl, proceeds⟩
      · simp only [if_neg same, Option.map_eq_map, Option.map_some] at found
        exact Or.inl found

theorem call_set {other : Nat} {before next : Waiter} (present : traffic.calls[other]? = some before)
    (proceeds : traffic.Proceeds other before step next)
    (found : (traffic.calls.set other next)[call]? = some waiter) :
    traffic.calls[call]? = some waiter ∨
      ∃ before, traffic.calls[call]? = some before ∧ traffic.Proceeds call before step waiter := by
  by_cases same : other = call
  · subst same
    rw [List.getElem?_set_self (List.getElem?_eq_some_iff.mp present).1] at found
    cases found
    exact Or.inr ⟨before, present, proceeds⟩
  · rw [List.getElem?_set_ne same] at found
    exact Or.inl found

theorem call_cases (found : (traffic.take step).calls[call]? = some waiter) :
    traffic.calls[call]? = some waiter ∨
    (∃ commandId, step = .register commandId ∧ call = traffic.calls.length ∧
      waiter = .sending (traffic.link.register commandId).1) ∨
    ∃ before, traffic.calls[call]? = some before ∧ traffic.Proceeds call before step waiter := by
  cases step with
  | register commandId =>
      simp only [take] at found
      rcases Nat.lt_or_ge call traffic.calls.length with inside | outside
      · rw [List.getElem?_append_left inside] at found
        exact Or.inl found
      · rw [List.getElem?_append_right outside] at found
        obtain ⟨place, added⟩ := List.getElem?_eq_some_iff.mp found
        rw [List.length_singleton] at place
        rw [List.getElem_singleton] at added
        exact Or.inr (Or.inl ⟨commandId, rfl, by omega, added.symm⟩)
  | wrote other written => exact (call_modify (traffic.proceeds_wrote other written) found).imp_right Or.inr
  | look other late => exact (call_modify (traffic.proceeds_look other late) found).imp_right Or.inr
  | drop other => exact (call_modify (traffic.proceeds_drop other) found).imp_right Or.inr
  | leave other =>
      simp only [take, leave] at found
      split at found
      · rename_i handle present
        exact (call_set present (.removed handle) found).imp_right Or.inr
      · rename_i handle error present
        exact (call_set present (.withdrew handle error) found).imp_right Or.inr
      · exact Or.inl found
  | hear event =>
      simp only [take] at found
      split at found
      · exact Or.inl found
      · exact Or.inl found
  | deliver place =>
      simp only [take, deliver] at found
      split at found
      · exact Or.inl found
      · exact Or.inl found
  | sweep | lose | attend _ => exact Or.inl found

theorem handle_cases (found : (traffic.take step).calls[call]? = some waiter) :
    (∃ before, traffic.calls[call]? = some before ∧ waiter.handle = before.handle) ∨
    ∃ commandId, step = .register commandId ∧ call = traffic.calls.length ∧
      waiter.handle = (traffic.link.register commandId).1 := by
  rcases call_cases found with stays | ⟨commandId, rfl, last, rfl⟩ | ⟨before, earlier, proceeds⟩
  · exact Or.inl ⟨waiter, stays, rfl⟩
  · exact Or.inr ⟨commandId, rfl, last, rfl⟩
  · exact Or.inl ⟨before, earlier, proceeds.handle_eq⟩

theorem length_take (traffic : Traffic) (step : Step) :
    traffic.calls.length ≤ (traffic.take step).calls.length := by
  cases step with
  | register commandId =>
      simp only [take, List.length_append]
      omega
  | wrote call written | look call late | drop call =>
      simp only [take, List.length_modify, Nat.le_refl]
  | leave call =>
      simp only [take, leave]
      split
      · rw [List.length_set]
      · rw [List.length_set]
      · exact Nat.le_refl _
  | hear event =>
      simp only [take]
      split <;> exact Nat.le_refl _
  | deliver place =>
      simp only [take, deliver]
      split <;> exact Nat.le_refl _
  | sweep | lose | attend _ => exact Nat.le_refl _

theorem handle_run (found : traffic.calls[call]? = some waiter) (steps : List Step) :
    ∃ later, (traffic.run steps).calls[call]? = some later ∧ later.handle = waiter.handle := by
  induction steps generalizing traffic waiter with
  | nil => exact ⟨waiter, found, rfl⟩
  | cons step steps ih =>
      have inside := (List.getElem?_eq_some_iff.mp found).1
      have present := List.getElem?_eq_getElem (Nat.lt_of_lt_of_le inside (traffic.length_take step))
      obtain ⟨later, last, same⟩ := ih present
      refine ⟨later, last, same.trans ?_⟩
      rcases handle_cases present with ⟨before, earlier, kept⟩ | ⟨_, _, last, _⟩
      · rw [found] at earlier
        cases earlier
        exact kept
      · exact absurd last (Nat.ne_of_lt inside)

def onTheWay (traffic : Traffic) : List (Nat × Outcome) :=
  traffic.underway.map fun entry => (entry.1.ticket, entry.2)

/-- The ledger is the table in which what takes a request out is what its sender sees at once. -/
structure Books (traffic : Traffic) (ledger : PendingTable) : Prop where
  next : ledger.next = traffic.link.pending.next
  requests : ledger.requests = traffic.link.pending.requests
  issued : ledger.issued = traffic.link.pending.issued
  resolved : ledger.resolved.Perm (traffic.onTheWay ++ traffic.link.pending.resolved)

inductive Enters (traffic : Traffic) (ledger : PendingTable) : Step → PendingTable → Prop
  | nothing (step : Step) : Enters traffic ledger step ledger
  | register (commandId : CommandId) :
      Enters traffic ledger (.register commandId) (ledger.register commandId traffic.link.now).2
  | hear {event : Inbound.Event} {sequence : UInt32} {outcome : Outcome}
      (response : event.response? = some (sequence, outcome)) :
      Enters traffic ledger (.hear event) (ledger.complete sequence outcome).2
  | sweep :
      Enters traffic ledger .sweep (ledger.expire traffic.link.now traffic.link.config.responseTimeout).2
  | lose : Enters traffic ledger .lose ledger.failAll.2
  | remove {call : Nat} {handle : PendingHandle} (overdue : traffic.calls[call]? = some (.overdue handle)) :
      Enters traffic ledger (.leave call) (ledger.lapse handle)
  | withdraw {call : Nat} {handle : PendingHandle} {error : SessionError}
      (unsent : traffic.calls[call]? = some (.unsent handle error)) :
      Enters traffic ledger (.leave call) (ledger.remove handle.sequence).2

theorem Enters.evolves {later : PendingTable} (enters : traffic.Enters ledger step later) :
    ledger.Evolves (fun _ => True) later := by
  cases enters with
  | nothing _ => exact .refl
  | register commandId => exact .register .refl commandId _
  | hear _ | sweep | lose | remove _ | withdraw _ => exact .retire .refl _ trivial

theorem Books.of_same (books : traffic.Books ledger) (pending : after.link.pending = traffic.link.pending)
    (underway : after.underway = traffic.underway) : after.Books ledger where
  next := by rw [pending, books.next]
  requests := by rw [pending, books.requests]
  issued := by rw [pending, books.issued]
  resolved := by
    rw [pending, onTheWay, underway]
    exact books.resolved

theorem Books.register (books : traffic.Books ledger) (commandId : CommandId) :
    (traffic.take (.register commandId)).Books (ledger.register commandId traffic.link.now).2 where
  next := congrArg PendingTable.following (PendingTable.freeSequence_congr books.requests books.next)
  requests := by
    simp only [PendingTable.register, Traffic.take, Link.register, books.requests, books.issued,
      PendingTable.freeSequence_congr books.requests books.next]
  issued := congrArg (· + 1) books.issued
  resolved := books.resolved

theorem Books.takeOut (books : traffic.Books ledger) (leaves : PendingRequest → Bool) (outcome : Outcome) :
    (traffic.takeOut leaves outcome).Books (ledger.retire leaves outcome).2 where
  next := books.next
  requests := by
    simp only [PendingTable.retire, PendingTable.takeOut, PendingTable.resolve, Traffic.takeOut,
      books.requests]
  issued := books.issued
  resolved := by
    simp only [PendingTable.retire, PendingTable.takeOut, PendingTable.resolve, Traffic.takeOut, onTheWay,
      List.map_append, List.map_map, Function.comp_def, books.requests, List.append_assoc]
    exact books.resolved.append_left _

theorem Books.retire (books : traffic.Books ledger)
    (pending : after.link.pending = (traffic.link.pending.retire leaves outcome).2)
    (underway : after.underway = traffic.underway) : after.Books (ledger.retire leaves outcome).2 where
  next := by rw [pending]; exact books.next
  requests := by
    rw [pending]
    simp only [PendingTable.retire, PendingTable.takeOut, PendingTable.resolve, books.requests]
  issued := by rw [pending]; exact books.issued
  resolved := by
    rw [pending, onTheWay, underway]
    simp only [PendingTable.retire, PendingTable.takeOut, PendingTable.resolve, books.requests]
    exact (books.resolved.append_left _).trans (List.perm_append_comm_assoc _ _ _)

theorem Books.deliver (books : traffic.Books ledger) (place : Nat) : (traffic.deliver place).Books ledger := by
  unfold Traffic.deliver
  split
  · rename_i request outcome found
    obtain ⟨inside, entry⟩ := List.getElem?_eq_some_iff.mp found
    refine ⟨books.next, books.requests, books.issued, books.resolved.trans ?_⟩
    have moved := (List.getElem_cons_eraseIdx_perm inside).symm.map fun entry => (entry.1.ticket, entry.2)
    rw [entry] at moved
    exact (moved.append_right _).trans List.perm_middle.symm
  · exact books

theorem Books.take (books : traffic.Books ledger) (step : Step) :
    ∃ later, traffic.Enters ledger step later ∧ (traffic.take step).Books later := by
  cases step with
  | register commandId => exact ⟨_, .register commandId, books.register commandId⟩
  | wrote call written | look call late | drop call | attend link =>
      exact ⟨_, .nothing _, books.of_same rfl rfl⟩
  | leave call =>
      simp only [Traffic.take, leave]
      split
      · rename_i handle overdue
        exact ⟨_, .remove overdue, books.retire rfl rfl⟩
      · rename_i handle error unsent
        exact ⟨_, .withdraw unsent, books.retire rfl rfl⟩
      · exact ⟨_, .nothing _, books⟩
  | hear event =>
      simp only [Traffic.take]
      split
      · rename_i sequence outcome response
        exact ⟨_, .hear response, books.takeOut _ outcome⟩
      · exact ⟨_, .nothing _, books⟩
  | sweep => exact ⟨_, .sweep, books.takeOut _ _⟩
  | lose => exact ⟨_, .lose, books.takeOut _ _⟩
  | deliver place => exact ⟨_, .nothing _, books.deliver place⟩

theorem Books.tickets (books : traffic.Books ledger) :
    ledger.tickets.Perm (traffic.onTheWay.map Prod.fst ++ traffic.link.pending.tickets) := by
  have resolved := books.resolved.map Prod.fst
  rw [List.map_append] at resolved
  rw [PendingTable.tickets, books.requests]
  exact (resolved.append_left _).trans (List.perm_append_comm_assoc _ _ _)

theorem Books.ticketed (books : traffic.Books ledger) (ticketed : ledger.Ticketed) :
    traffic.link.pending.Ticketed where
  issued := by
    intro ticket member
    rw [← books.issued]
    exact ticketed.issued ticket (books.tickets.mem_iff.mpr (List.mem_append_right _ member))
  once := (List.nodup_append.mp (books.tickets.nodup_iff.mp ticketed.once)).2.1

theorem Books.settles (books : traffic.Books ledger) (ticketed : ledger.Ticketed) {handle : PendingHandle}
    (settled : ledger.outcome? handle = some outcome) :
    traffic.link.pending.outcome? handle = some outcome ∨
      traffic.link.pending.outcome? handle = none ∧ (handle.ticket, outcome) ∈ traffic.onTheWay := by
  have member := (PendingTable.outcome?_eq_some_iff ticketed.resolved_once).mp settled
  rw [books.resolved.mem_iff] at member
  have counts := (books.ticketed ticketed).resolved_once
  rcases List.mem_append.mp member with underway | resolved
  · refine Or.inr ⟨?_, underway⟩
    rw [Option.eq_none_iff_forall_ne_some]
    intro other seen
    have present := (PendingTable.outcome?_eq_some_iff counts).mp seen
    have apart := (List.nodup_append.mp (books.tickets.nodup_iff.mp ticketed.once)).2.2
    exact apart _ (List.mem_map_of_mem underway) _
      (List.mem_append_right _ (List.mem_map_of_mem present)) rfl
  · exact Or.inl ((PendingTable.outcome?_eq_some_iff counts).mpr resolved)

structure IsSound (traffic : Traffic) (ledger : PendingTable) : Prop where
  books : traffic.Books ledger
  ticketed : ledger.Ticketed
  listed : PendingTable.IsSequence ledger.next
  stands : ∀ waiter ∈ traffic.calls, ledger.Stands waiter.handle
  distinct : ∀ {first second : Nat} {one two : Waiter}, traffic.calls[first]? = some one →
    traffic.calls[second]? = some two → one.handle.ticket = two.handle.ticket → first = second

theorem IsSound.ticket_lt (sound : traffic.IsSound ledger) (found : traffic.calls[call]? = some waiter) :
    waiter.handle.ticket < traffic.link.pending.issued := by
  rw [← sound.books.issued]
  rcases sound.stands waiter (List.mem_of_getElem? found) with ⟨request, waits, same⟩ | ⟨outcome, resolved⟩
  · rw [← same]
    exact sound.ticketed.ticket_lt waits
  · have entry := (PendingTable.outcome?_eq_some_iff sound.ticketed.resolved_once).mp resolved
    exact sound.ticketed.issued _ (List.mem_append_right _ (List.mem_map_of_mem entry))

theorem IsSound.of_enters (sound : traffic.IsSound ledger) {later : PendingTable}
    (enters : traffic.Enters ledger step later) (books : (traffic.take step).Books later) :
    (traffic.take step).IsSound later where
  books := books
  ticketed := sound.ticketed.evolves enters.evolves
  listed := enters.evolves.isSequence_next sound.listed
  stands := by
    intro waiter member
    obtain ⟨call, found⟩ := List.mem_iff_getElem?.mp member
    rcases handle_cases found with ⟨before, present, same⟩ | ⟨commandId, rfl, _, same⟩
    · rw [same]
      exact (sound.stands before (List.mem_of_getElem? present)).evolves sound.ticketed enters.evolves
    · refine Or.inl ?_
      rw [books.requests, same]
      exact ⟨_, List.mem_cons_self, rfl⟩
  distinct := by
    -- A new ticket is none that any call has had.
    have fresh : ∀ {other : Nat} {waiter : Waiter} {commandId : CommandId},
        traffic.calls[other]? = some waiter →
          waiter.handle.ticket ≠ (traffic.link.register commandId).1.ticket :=
      fun found => Nat.ne_of_lt (sound.ticket_lt found)
    intro first second one two foundFirst foundSecond same
    rcases handle_cases foundFirst with ⟨before, present, kept⟩ | ⟨commandId, rfl, last, new⟩
    · rcases handle_cases foundSecond with ⟨other, there, keeps⟩ | ⟨commandId, rfl, last, new⟩
      · rw [kept, keeps] at same
        exact sound.distinct present there same
      · rw [kept, new] at same
        exact absurd same (fresh present)
    · rcases handle_cases foundSecond with ⟨other, there, keeps⟩ | ⟨_, _, itself, _⟩
      · rw [keeps, new] at same
        exact absurd same.symm (fresh there)
      · rw [last, itself]

theorem IsSound.run (sound : traffic.IsSound ledger) (steps : List Step) :
    ∃ later, ledger.Evolves (fun _ => True) later ∧ (traffic.run steps).IsSound later := by
  induction steps generalizing traffic ledger with
  | nil => exact ⟨ledger, .refl, sound⟩
  | cons step steps ih =>
      obtain ⟨middle, enters, books⟩ := sound.books.take step
      obtain ⟨later, evolves, kept⟩ := ih (sound.of_enters enters books)
      exact ⟨later, enters.evolves.trans evolves, kept⟩

theorem sound_starting (config : SessionConfig) (handlers : HandlerTable) (sink : Sink) :
    (starting config handlers sink).IsSound {} where
  books := ⟨rfl, rfl, rfl, .refl _⟩
  ticketed := PendingTable.ticketed_new
  listed := ⟨by decide, by decide⟩
  stands := by
    intro waiter member
    cases member
  distinct := by
    intro _ _ _ _ found
    cases found

end

inductive Retires (traffic : Traffic) (request : PendingRequest) : Step → Outcome → Prop
  | answered {event : Inbound.Event} {outcome : Outcome}
      (response : event.response? = some (request.sequence, outcome)) :
      Retires traffic request (.hear event) outcome
  | swept (stale : traffic.link.config.responseTimeout ≤ traffic.link.now - request.registeredAt) :
      Retires traffic request .sweep (.error .timeout)
  | lost : Retires traffic request .lose (.error .connectionLost)
  | removed {call : Nat} (overdue : traffic.calls[call]? = some (.overdue request.handle)) :
      Retires traffic request (.leave call) (.error .timeout)
  | withdrawn {call : Nat} {error : SessionError}
      (unsent : traffic.calls[call]? = some (.unsent request.handle error)) :
      Retires traffic request (.leave call) (.error .connectionLost)

def OwnNumbers (traffic : Traffic) : Prop :=
  ∀ waiter ∈ traffic.calls, waiter.isOver = false → ∀ request ∈ traffic.link.pending.requests,
    request.sequence = waiter.handle.sequence → request.ticket = waiter.handle.ticket

section

variable {traffic : Traffic} {call : Nat} {waiter : Waiter} {step : Step} {ledger later : PendingTable}
  {outcome : Outcome} {request : PendingRequest}

theorem Retires.frame (retires : traffic.Retires request step outcome) (frame : Frame) :
    outcome = .ok frame ↔ step = .hear (.frame frame) := by
  cases retires with
  | answered response => rw [Inbound.Event.eq_frame_iff response, Step.hear.injEq]
  | swept _ | lost | removed _ | withdrawn _ => exact ⟨nofun, nofun⟩

theorem IsSound.handle_of_sequence (sound : traffic.IsSound ledger) (own : traffic.OwnNumbers)
    (found : traffic.calls[call]? = some waiter) (going : waiter.isOver = false)
    (waits : request ∈ ledger.requests) (same : request.sequence = waiter.handle.sequence) :
    request.handle = waiter.handle := by
  have member := List.mem_of_getElem? found
  have present := waits
  rw [sound.books.requests] at present
  exact (sound.stands waiter member).eq_of_ticket sound.ticketed waits
    (own waiter member going request present same)

theorem IsSound.accounts (sound : traffic.IsSound ledger) (own : traffic.OwnNumbers)
    (enters : traffic.Enters ledger step later) (waits : request ∈ ledger.requests) :
    request ∈ later.requests ∨
      ∃ outcome, traffic.Retires request step outcome ∧ later.outcome? request.handle = some outcome := by
  cases enters with
  | nothing _ => exact Or.inl waits
  | register commandId => exact Or.inl (List.mem_cons_of_mem _ waits)
  | @hear event sequence outcome response =>
      by_cases same : request.sequence = sequence
      · subst same
        exact Or.inr ⟨outcome, .answered response,
          sound.ticketed.outcome?_of_leaving waits (beq_self_eq_true request.sequence)⟩
      · exact Or.inl (PendingTable.mem_complete.mpr ⟨waits, same⟩)
  | sweep =>
      by_cases stale : traffic.link.config.responseTimeout ≤ traffic.link.now - request.registeredAt
      · exact Or.inr ⟨_, .swept stale, sound.ticketed.outcome?_of_leaving waits (decide_eq_true stale)⟩
      · exact Or.inl (PendingTable.mem_expire.mpr ⟨waits, Nat.lt_of_not_le stale⟩)
  | lose => exact Or.inr ⟨_, .lost, sound.ticketed.outcome?_of_leaving waits rfl⟩
  | @remove call handle overdue =>
      by_cases same : request.sequence = handle.sequence
      · have itself := sound.handle_of_sequence own overdue rfl waits same
        rw [Waiter.handle] at itself
        subst itself
        exact Or.inr ⟨_, .removed overdue,
          sound.ticketed.outcome?_of_leaving waits (beq_self_eq_true request.sequence)⟩
      · exact Or.inl (PendingTable.mem_lapse.mpr ⟨waits, same⟩)
  | @withdraw call handle error unsent =>
      by_cases same : request.sequence = handle.sequence
      · have itself := sound.handle_of_sequence own unsent rfl waits same
        rw [Waiter.handle] at itself
        subst itself
        exact Or.inr ⟨_, .withdrawn unsent,
          sound.ticketed.outcome?_of_leaving waits (beq_self_eq_true request.sequence)⟩
      · exact Or.inl (PendingTable.mem_complete.mpr ⟨waits, same⟩)

def Step.IsOf (call : Nat) : Step → Prop
  | wrote other _ | look other _ | leave other | drop other => other = call
  | register _ | hear _ | sweep | lose | deliver _ | attend _ => False

theorem IsSound.altersOnly (sound : traffic.IsSound ledger) (own : traffic.OwnNumbers)
    (isOf : step.IsOf call) {handle : PendingHandle}
    (itself : ∀ waiter, traffic.calls[call]? = some waiter → waiter.handle = handle) :
    traffic.link.pending.AltersOnly (traffic.take step).link.pending handle.ticket := by
  have counts := sound.books.ticketed sound.ticketed
  have mine : ∀ waiter, traffic.calls[call]? = some waiter → waiter.isOver = false →
      ∀ request ∈ traffic.link.pending.requests, request.sequence = waiter.handle.sequence →
        request.ticket = handle.ticket := by
    intro waiter found going request waits same
    rw [← itself waiter found]
    exact own waiter (List.mem_of_getElem? found) going request waits same
  cases step with
  | leave other =>
      obtain rfl : other = call := isOf
      simp only [take, leave]
      split
      · rename_i overdue
        exact counts.altersOnly_complete (mine _ overdue rfl) _
      · rename_i unsent
        exact counts.altersOnly_complete (mine _ unsent rfl) _
      · exact PendingTable.altersOnly_refl _ _
  | wrote _ _ | look _ _ | drop _ => exact PendingTable.altersOnly_refl _ _
  | register _ | hear _ | sweep | lose | deliver _ | attend _ => exact absurd isOf id

end

/-- So few numbers have been given out since before the request with this ticket that its own has not come
round again. -/
def HasNumbers (start : Traffic) (steps : List Step) (ticket : Nat) : Prop :=
  ∃ earlier, earlier <+: steps ∧ (start.run earlier).link.pending.issued ≤ ticket ∧
    (start.run earlier).link.pending.size +
        ((start.run steps).link.pending.issued - (start.run earlier).link.pending.issued) ≤
      PendingTable.lastSequence.toNat

def IsSpaced (start : Traffic) (steps : List Step) : Prop :=
  ∀ earlier, earlier <+: steps → ∀ waiter ∈ (start.run earlier).calls, waiter.isOver = false →
    start.HasNumbers earlier waiter.handle.ticket

/-- The request leaves the table in this step, for good. What it comes to by that is all that its sender can
see of it, once it is there, and a response that is heard later changes nothing. -/
structure RetiredBy (start : Traffic) (request : PendingRequest) (earlier : List Step) (step : Step)
    (outcome : Outcome) : Prop where
  waits : request ∈ (start.run earlier).link.pending.requests
  retires : (start.run earlier).Retires request step outcome
  frame : ∀ frame, outcome = .ok frame ↔ step = .hear (.frame frame)
  gone : ∀ later, ∀ other ∈ (start.run (earlier ++ step :: later)).link.pending.requests,
    other.ticket ≠ request.ticket
  settles : ∀ later,
    (start.run (earlier ++ step :: later)).link.pending.outcome? request.handle = some outcome ∨
    (start.run (earlier ++ step :: later)).link.pending.outcome? request.handle = none ∧
      (request.ticket, outcome) ∈ (start.run (earlier ++ step :: later)).onTheWay
  free : ∀ later, start.HasNumbers (earlier ++ step :: later) request.ticket →
    (start.run (earlier ++ step :: later)).link.pending.isOutstanding request.sequence = false
  late : ∀ later event response, start.HasNumbers (earlier ++ step :: later) request.ticket →
    event.response? = some (request.sequence, response) →
      Listener.hear (start.run (earlier ++ step :: later)).link event =
        ((start.run (earlier ++ step :: later)).link, .reading) ∧
      (start.run (earlier ++ step :: later)).take (.hear event) = start.run (earlier ++ step :: later)

section

variable {start : Traffic} {ledger : PendingTable} {steps earlier : List Step} {step : Step}
  {request : PendingRequest} {outcome : Outcome} {waiter : Waiter}

theorem IsSound.run_prefix (sound : start.IsSound ledger) (starts : earlier <+: steps) :
    ∃ first second : PendingTable, ledger.Evolves (fun _ => True) first ∧
      first.Evolves (fun _ => True) second ∧ (start.run earlier).IsSound first ∧
      (start.run steps).IsSound second := by
  obtain ⟨rest, rfl⟩ := starts
  obtain ⟨first, before, initial⟩ := sound.run earlier
  obtain ⟨second, after, last⟩ := initial.run rest
  rw [← run_append] at last
  exact ⟨first, second, before, after, initial, last⟩

theorem IsSound.issued_le (sound : start.IsSound ledger) (starts : earlier <+: steps) :
    (start.run earlier).link.pending.issued ≤ (start.run steps).link.pending.issued := by
  obtain ⟨first, second, _, evolves, initial, last⟩ := sound.run_prefix starts
  rw [← initial.books.issued, ← last.books.issued]
  exact evolves.size_le.1

theorem registered_of_call (quiet : start.calls = []) (member : waiter ∈ (start.run steps).calls) :
    ∃ earlier, earlier <+: steps ∧
      ∃ request ∈ (start.run earlier).link.pending.requests, request.handle = waiter.handle := by
  induction steps using List.reverseRecOn generalizing waiter with
  | nil =>
      rw [run_nil, quiet] at member
      cases member
  | append_singleton steps step ih =>
      rw [run_concat] at member
      obtain ⟨call, found⟩ := List.mem_iff_getElem?.mp member
      rcases handle_cases found with ⟨before, present, same⟩ | ⟨commandId, rfl, _, same⟩
      · obtain ⟨earlier, starts, waits⟩ := ih (List.mem_of_getElem? present)
        rw [← same] at waits
        exact ⟨earlier, starts.trans (List.prefix_append _ _), waits⟩
      · refine ⟨_, List.prefix_refl _, ?_⟩
        rw [run_concat, same]
        exact ⟨_, List.mem_cons_self, rfl⟩

theorem ticket_of_numbers (sound : start.IsSound ledger) (starts : earlier <+: steps)
    (waits : request ∈ (start.run earlier).link.pending.requests)
    (numbers : start.HasNumbers steps request.ticket) :
    ∀ other ∈ (start.run steps).link.pending.requests, other.sequence = request.sequence →
      other.ticket = request.ticket := by
  obtain ⟨base, initial, since, room⟩ := numbers
  -- The numbers are counted from before the request, so that they count it.
  have before : base <+: earlier := by
    rcases List.prefix_or_prefix_of_prefix initial starts with before | after
    · exact before
    · obtain ⟨first, _, _, _, kept, _⟩ := sound.run_prefix starts
      have given := (kept.books.ticketed kept.ticketed).ticket_lt waits
      have grown := sound.issued_le after
      omega
  obtain ⟨first, _, _, _, initially, _⟩ := sound.run_prefix before
  obtain ⟨middle, rfl⟩ := before
  obtain ⟨rest, rfl⟩ := starts
  obtain ⟨second, evolves, kept⟩ := initially.run middle
  rw [← run_append] at kept
  obtain ⟨third, further, last⟩ := kept.run rest
  rw [← run_append] at last
  rw [← kept.books.requests] at waits
  rw [← last.books.requests]
  apply PendingTable.ticket_of_sequence evolves further initially.ticketed initially.listed waits
  · rw [initially.books.issued]
    exact since
  · rw [PendingTable.size, initially.books.requests, initially.books.issued, last.books.issued]
    exact room

theorem ownNumbers_of_spaced (sound : start.IsSound ledger) (quiet : start.calls = [])
    (spaced : start.IsSpaced steps) (starts : earlier <+: steps) : (start.run earlier).OwnNumbers := by
  intro waiter member going other waits same
  have numbers := spaced earlier starts waiter member going
  obtain ⟨first, before, request, registered, itself⟩ := registered_of_call quiet member
  rw [← itself] at numbers same ⊢
  exact ticket_of_numbers sound before registered numbers other waits same

theorem take_of_free {sequence : UInt32} {event : Inbound.Event} {response : Outcome}
    (found : event.response? = some (sequence, response))
    (free : start.link.pending.isOutstanding sequence = false) : start.take (.hear event) = start := by
  have none : ∀ request ∈ start.link.pending.requests, (request.sequence == sequence) = false := by
    intro request member
    rw [beq_eq_false_iff_ne]
    intro same
    rw [PendingTable.isOutstanding_iff.mpr ⟨request, member, same⟩] at free
    cases free
  simp only [take, found, takeOut, PendingTable.takeOut_of_none none, List.map_nil, List.nil_append]

theorem retiredBy_of_retires {later : PendingTable} (sound : start.IsSound ledger)
    (sounds : (start.run earlier).IsSound later)
    (waits : request ∈ (start.run earlier).link.pending.requests)
    (retires : (start.run earlier).Retires request step outcome) {last : PendingTable}
    (evolves : later.Evolves (fun _ => True) last) (keeps : ((start.run earlier).take step).IsSound last)
    (resolved : last.outcome? request.handle = some outcome) :
    start.RetiredBy request earlier step outcome := by
  have ran : ∀ rest, start.run (earlier ++ step :: rest) = ((start.run earlier).take step).run rest := by
    intro rest
    rw [run_append, run_cons]
  have starts : ∀ rest, earlier <+: earlier ++ step :: rest := fun rest => List.prefix_append _ _
  have gone : ∀ rest, ∀ other ∈ (start.run (earlier ++ step :: rest)).link.pending.requests,
      other.ticket ≠ request.ticket := by
    intro rest other member same
    obtain ⟨table, further, ends⟩ := keeps.run rest
    rw [ran, ← ends.books.requests] at member
    rw [← sounds.books.requests] at waits
    have given := sounds.ticketed.ticket_lt waits
    rw [← same] at given
    have old := (evolves.trans further).mem_of_issued member given
    have itself := sounds.ticketed.eq_of_ticket old waits same
    have waiting := ends.ticketed.waiting member
    rw [itself, further.outcome?_eq keeps.ticketed resolved] at waiting
    cases waiting
  have free : ∀ rest, start.HasNumbers (earlier ++ step :: rest) request.ticket →
      (start.run (earlier ++ step :: rest)).link.pending.isOutstanding request.sequence = false := by
    intro rest numbers
    rw [← Bool.not_eq_true, PendingTable.isOutstanding_iff]
    rintro ⟨other, member, same⟩
    apply gone rest other member
    exact ticket_of_numbers sound (starts rest) waits numbers other member same
  refine ⟨waits, retires, retires.frame, gone, fun rest => ?_, free, ?_⟩
  · obtain ⟨table, further, ends⟩ := keeps.run rest
    rw [ran]
    exact ends.books.settles ends.ticketed (further.outcome?_eq keeps.ticketed resolved)
  · intro rest event response numbers found
    have vacant := free rest numbers
    exact ⟨Listener.hear_of_free found vacant, take_of_free found vacant⟩

theorem exists_retiredBy {first rest : List Step} (sound : start.IsSound ledger) (quiet : start.calls = [])
    (spaced : start.IsSpaced (first ++ rest))
    (waits : request ∈ (start.run first).link.pending.requests)
    (left : request ∉ (start.run (first ++ rest)).link.pending.requests) :
    ∃ earlier step later outcome, first ++ rest = earlier ++ step :: later ∧
      start.RetiredBy request earlier step outcome := by
  induction rest generalizing first with
  | nil =>
      rw [List.append_nil] at left
      exact absurd waits left
  | cons step rest ih =>
      obtain ⟨table, _, kept⟩ := sound.run first
      have own := ownNumbers_of_spaced sound quiet spaced (List.prefix_append first _)
      obtain ⟨last, enters, books⟩ := kept.books.take step
      have keeps := kept.of_enters enters books
      have present := waits
      rw [← kept.books.requests] at present
      rcases kept.accounts own enters present with stays | ⟨outcome, retires, resolved⟩
      · have same : first ++ step :: rest = first ++ [step] ++ rest := by
          rw [List.append_assoc, List.singleton_append]
        rw [books.requests, ← run_concat] at stays
        rw [same] at spaced left ⊢
        exact ih spaced stays left
      · exact ⟨first, step, rest, outcome, rfl,
          retiredBy_of_retires sound kept waits retires enters.evolves keeps resolved⟩

theorem isSpaced_of_few {config : SessionConfig} {handlers : HandlerTable} {sink : Sink}
    (few : ((starting config handlers sink).run steps).link.pending.issued ≤
      PendingTable.lastSequence.toNat) : (starting config handlers sink).IsSpaced steps := by
  intro earlier starts waiter _ _
  refine ⟨[], List.nil_prefix, Nat.zero_le _, ?_⟩
  have given := (sound_starting config handlers sink).issued_le starts
  exact (Nat.zero_add _).trans_le (Nat.le_trans given few)

end

/-- The call has looked for the last time in these steps, and goes by what was there. -/
structure LastLook (start : Traffic) (steps : List Step) (call : Nat) (handle : PendingHandle)
    (outcome : Outcome) (looking : List Step) : Prop where
  looks : ∃ late later, steps = looking ++ .look call late :: later
  waiting : (start.run looking).calls[call]? = some (.waiting handle)
  found : outcome = ((start.run looking).link.pending.outcome? handle).getD (.error .timeout)

/-- The call returns in the last of these steps, and by then its request has been retired once. The call
returns what has retired the request, if that was there when it looked for the last time, and a timeout
otherwise. Nothing waits under its number any longer, and it has altered no other entry. -/
structure EndsOnce (start : Traffic) (steps : List Step) (call : Nat) (handle : PendingHandle)
    (outcome : Outcome) : Prop where
  free : (start.run steps).link.pending.isOutstanding handle.sequence = false
  others : ∀ earlier step later, steps = earlier ++ step :: later → step.IsOf call →
    (start.run earlier).link.pending.AltersOnly ((start.run earlier).take step).link.pending handle.ticket
  ended : ∃ request looking earlier retiring later found, request.handle = handle ∧
    start.LastLook steps call handle outcome looking ∧
    steps = earlier ++ retiring :: later ∧ start.RetiredBy request earlier retiring found ∧
    (∀ first another rest, steps = first ++ another :: rest →
      request ∈ (start.run first).link.pending.requests →
      request ∉ (start.run (first ++ [another])).link.pending.requests → first = earlier) ∧
    (∀ other, retiring = .leave other → other = call ∧ later = []) ∧
    (outcome = found ∨
      outcome = .error .timeout ∧ (start.run looking).link.pending.outcome? handle = none) ∧
    ∀ frame, outcome = .ok frame ↔ retiring = .hear (.frame frame) ∧
      (start.run looking).link.pending.outcome? handle = some found

section

variable {start : Traffic} {ledger : PendingTable} {steps : List Step} {step : Step} {call : Nat}
  {handle : PendingHandle} {outcome : Outcome} {request : PendingRequest}

theorem LastLook.concat {looking : List Step} (look : start.LastLook steps call handle outcome looking)
    (step : Step) : start.LastLook (steps ++ [step]) call handle outcome looking where
  looks := by
    obtain ⟨late, later, rfl⟩ := look.looks
    exact ⟨late, later ++ [step], by rw [List.append_assoc, List.cons_append]⟩
  waiting := look.waiting
  found := look.found

theorem looked_of_overdue (quiet : start.calls = [])
    (overdue : (start.run steps).calls[call]? = some (.overdue handle)) :
    ∃ looking, start.LastLook steps call handle (.error .timeout) looking ∧
      (start.run looking).link.pending.outcome? handle = none := by
  induction steps using List.reverseRecOn with
  | nil =>
      rw [run_nil, quiet] at overdue
      cases overdue
  | append_singleton steps step ih =>
      rw [run_concat] at overdue
      rcases call_cases overdue with stays | ⟨_, _, _, impossible⟩ | ⟨before, present, proceeds⟩
      · obtain ⟨looking, look, none⟩ := ih stays
        exact ⟨looking, look.concat step, none⟩
      · cases impossible
      · cases proceeds with
        | missed unresolved =>
            refine ⟨steps, ⟨⟨true, [], rfl⟩, present, ?_⟩, unresolved⟩
            rw [unresolved]
            rfl

theorem over_run {waiter : Waiter} {traffic : Traffic} (found : traffic.calls[call]? = some waiter)
    (ended : waiter.isOver = true) (steps : List Step) : (traffic.run steps).calls[call]? = some waiter := by
  induction steps generalizing traffic with
  | nil => exact found
  | cons step steps ih =>
      apply ih
      have inside := (List.getElem?_eq_some_iff.mp found).1
      have present := List.getElem?_eq_getElem (Nat.lt_of_lt_of_le inside (traffic.length_take step))
      rcases call_cases present with stays | ⟨_, _, last, _⟩ | ⟨before, earlier, proceeds⟩
      · rw [present, ← stays, found]
      · exact absurd last (Nat.ne_of_lt inside)
      · rw [found] at earlier
        cases earlier
        rw [proceeds.going] at ended
        cases ended

theorem call_of_leave {traffic : Traffic} (retires : traffic.Retires request (.leave call) outcome) :
    ∃ waiter, (traffic.take (.leave call)).calls[call]? = some waiter ∧ waiter.isOver = true ∧
      waiter.handle = request.handle := by
  cases retires with
  | removed overdue =>
      have inside := (List.getElem?_eq_some_iff.mp overdue).1
      refine ⟨.returned request.handle (.error .timeout), ?_, rfl, rfl⟩
      simp only [take, leave, overdue, List.getElem?_set_self inside]
  | @withdrawn _ error unsent =>
      have inside := (List.getElem?_eq_some_iff.mp unsent).1
      refine ⟨.refused request.handle error, ?_, rfl, rfl⟩
      simp only [take, leave, unsent, List.getElem?_set_self inside]

theorem return_cases {traffic : Traffic}
    (going : traffic.calls[call]? ≠ some (.returned handle outcome))
    (returned : (traffic.take step).calls[call]? = some (.returned handle outcome)) :
    (∃ late, step = .look call late ∧ traffic.calls[call]? = some (.waiting handle) ∧
      traffic.link.pending.outcome? handle = some outcome) ∨
    step = .leave call ∧ traffic.calls[call]? = some (.overdue handle) ∧ outcome = .error .timeout := by
  rcases call_cases returned with stays | ⟨_, _, _, impossible⟩ | ⟨before, present, proceeds⟩
  · exact absurd stays going
  · cases impossible
  · cases proceeds with
    | saw late resolved => exact Or.inl ⟨late, rfl, present, resolved⟩
    | removed => exact Or.inr ⟨rfl, present, rfl⟩

theorem IsSound.free_of_return {traffic : Traffic} (sound : traffic.IsSound ledger)
    (own : traffic.OwnNumbers) (going : traffic.calls[call]? ≠ some (.returned handle outcome))
    (returned : (traffic.take step).calls[call]? = some (.returned handle outcome)) :
    (traffic.take step).link.pending.isOutstanding handle.sequence = false := by
  rw [← Bool.not_eq_true, PendingTable.isOutstanding_iff]
  rintro ⟨other, member, same⟩
  rcases return_cases going returned with ⟨late, rfl, waiting, resolved⟩ | ⟨rfl, overdue, _⟩
  · have counts := sound.books.ticketed sound.ticketed
    have present := List.mem_of_getElem? waiting
    have ticket : other.ticket = handle.ticket := own _ present rfl other member same
    have unresolved := counts.waiting member
    rw [PendingTable.outcome?, ← ticket] at resolved
    cases resolved.symm.trans unresolved
  · simp only [take, leave, overdue] at member
    exact (PendingTable.mem_lapse.mp member).2 same

theorem not_mem_of_left {first longer : List Step} {step : Step} (sound : start.IsSound ledger)
    (waits : request ∈ (start.run first).link.pending.requests)
    (left : request ∉ (start.run (first ++ [step])).link.pending.requests)
    (starts : first ++ [step] <+: longer) : request ∉ (start.run longer).link.pending.requests := by
  intro again
  obtain ⟨before, middle, _, earlier, initial, kept⟩ := sound.run_prefix (List.prefix_append first [step])
  obtain ⟨rest, rfl⟩ := starts
  obtain ⟨last, evolves, ends⟩ := kept.run rest
  rw [← run_append] at ends
  rw [← initial.books.requests] at waits
  rw [← ends.books.requests] at again
  have given := Nat.lt_of_lt_of_le (initial.ticketed.ticket_lt waits) earlier.size_le.1
  have present := evolves.mem_of_issued again given
  rw [kept.books.requests] at present
  exact left present

theorem RetiredBy.once {earlier first rest : List Step} {retiring another : Step}
    (sound : start.IsSound ledger) (retired : start.RetiredBy request earlier retiring outcome)
    (initial : earlier ++ [retiring] <+: steps) (whole : steps = first ++ another :: rest)
    (waits : request ∈ (start.run first).link.pending.requests)
    (left : request ∉ (start.run (first ++ [another])).link.pending.requests) : first = earlier := by
  have gone : request ∉ (start.run (earlier ++ [retiring])).link.pending.requests :=
    fun member => retired.gone [] request member rfl
  exact eq_of_departures (fun steps => request ∈ (start.run steps).link.pending.requests)
    (not_mem_of_left sound) waits left (prefix_of_split whole) retired.waits gone initial

theorem IsSound.altersOnly_of_returned {earlier later : List Step} {taken : Step}
    (sound : start.IsSound ledger) (own : (start.run earlier).OwnNumbers)
    (split : steps = earlier ++ taken :: later) (isOf : taken.IsOf call)
    (returned : (start.run steps).calls[call]? = some (.returned handle outcome)) :
    (start.run earlier).link.pending.AltersOnly ((start.run earlier).take taken).link.pending
      handle.ticket := by
  obtain ⟨_, _, keeps⟩ := sound.run earlier
  apply keeps.altersOnly own isOf
  intro waiter found
  obtain ⟨last, present, same⟩ := handle_run found (taken :: later)
  rw [← run_append, ← split, returned] at present
  cases present
  exact same.symm

theorem own_leave {earlier later : List Step} {other : Nat} {found : Outcome}
    (sound : start.IsSound ledger) (split : steps ++ [step] = earlier ++ .leave other :: later)
    (retires : (start.run earlier).Retires request (.leave other) found)
    (going : (start.run steps).calls[call]? ≠ some (.returned request.handle outcome))
    (returned : (start.run (steps ++ [step])).calls[call]? = some (.returned request.handle outcome)) :
    other = call ∧ later = [] := by
  obtain ⟨waiter, gone, ended, itself⟩ := call_of_leave retires
  rw [← run_concat] at gone
  have whole : steps ++ [step] = (earlier ++ [.leave other]) ++ later := by
    rw [split, List.append_assoc, List.singleton_append]
  have last := over_run gone ended later
  rw [← run_append, ← whole] at last
  obtain ⟨_, _, ends⟩ := sound.run (steps ++ [step])
  have same : other = call := by
    apply ends.distinct last returned
    rw [itself]
    rfl
  subst same
  refine ⟨rfl, ?_⟩
  rcases List.eq_nil_or_concat later with empty | ⟨between, final, rfl⟩
  · exact empty
  · rw [last] at returned
    cases returned
    rw [List.concat_eq_append, ← List.append_assoc] at whole
    have before := over_run gone ended between
    rw [← run_append, ← (List.append_inj' whole rfl).1] at before
    exact absurd before going

theorem endsOnce_of_returned (sound : start.IsSound ledger) (quiet : start.calls = [])
    (spaced : start.IsSpaced (steps ++ [step]))
    (going : (start.run steps).calls[call]? ≠ some (.returned handle outcome))
    (returned : (start.run (steps ++ [step])).calls[call]? = some (.returned handle outcome)) :
    start.EndsOnce (steps ++ [step]) call handle outcome := by
  have own : ∀ {earlier : List Step}, earlier <+: steps ++ [step] → (start.run earlier).OwnNumbers :=
    fun starts => ownNumbers_of_spaced sound quiet spaced starts
  obtain ⟨table, _, kept⟩ := sound.run steps
  have returns := returned
  rw [run_concat] at returns
  have free : (start.run (steps ++ [step])).link.pending.isOutstanding handle.sequence = false := by
    rw [run_concat]
    exact kept.free_of_return (own (List.prefix_append _ _)) going returns
  refine ⟨free, ?_, ?_⟩
  · intro earlier taken later split isOf
    exact sound.altersOnly_of_returned (own ⟨taken :: later, split.symm⟩) split isOf returned
  · obtain ⟨first, ⟨rest, whole⟩, request, waits, rfl⟩ :=
      registered_of_call quiet (List.mem_of_getElem? returned)
    have left : request ∉ (start.run (first ++ rest)).link.pending.requests := by
      intro member
      rw [whole] at member
      rw [← Bool.not_eq_true, PendingTable.isOutstanding_iff] at free
      exact free ⟨request, member, rfl⟩
    obtain ⟨earlier, retiring, later, found, split, retired⟩ :=
      exists_retiredBy sound quiet (whole ▸ spaced) waits left
    rw [whole] at split
    have once : ∀ before another others, steps ++ [step] = before ++ another :: others →
        request ∈ (start.run before).link.pending.requests →
        request ∉ (start.run (before ++ [another])).link.pending.requests → before = earlier :=
      fun _ _ _ => retired.once sound (prefix_of_split split)
    have itself : ∀ other, retiring = .leave other → other = call ∧ later = [] := by
      rintro other rfl
      exact own_leave sound split retired.retires going returned
    rcases return_cases going returns with ⟨late, rfl, waiting, resolved⟩ | ⟨rfl, overdue, rfl⟩
    · have settled := retired.settles later
      rw [← split, run_concat] at settled
      have same : outcome = found := by
        rcases settled with seen | ⟨unseen, _⟩
        · exact Option.some.inj (resolved.symm.trans seen)
        · cases resolved.symm.trans unseen
      subst same
      refine ⟨request, steps, earlier, retiring, later, outcome, rfl, ⟨⟨late, [], rfl⟩, waiting, ?_⟩,
        split, retired, once, itself, Or.inl rfl, fun frame => ?_⟩
      · rw [resolved]
        rfl
      · rw [retired.frame frame, and_iff_left resolved]
    · obtain ⟨looking, look, none⟩ := looked_of_overdue quiet overdue
      refine ⟨request, looking, earlier, retiring, later, found, rfl, look.concat _, split, retired, once,
        itself, Or.inr ⟨rfl, none⟩, fun frame => ⟨nofun, ?_⟩⟩
      rintro ⟨_, seen⟩
      cases none.symm.trans seen

end

/-- Whoever has been taken out last gets to see it first. -/
def deliveries : Nat → List Step
  | 0 => []
  | count + 1 => .deliver count :: deliveries count

/-- With nobody in between the steps come to what the session does at once. -/
structure Undisturbed (traffic : Traffic) : Prop where
  giveUp : ∀ call handle, traffic.calls[call]? = some (.waiting handle) →
    (traffic.run [.look call true, .leave call]).link = (traffic.link.giveUp handle).2 ∧
      (traffic.run [.look call true, .leave call]).calls[call]? =
        some (.returned handle (traffic.link.giveUp handle).1)
  withdraw : ∀ call handle error, traffic.calls[call]? = some (.sending handle) →
    (traffic.run [.wrote call (.error error), .leave call]).link = traffic.link.withdraw handle
  complete : ∀ (event : Inbound.Event) sequence outcome, event.response? = some (sequence, outcome) →
    ∃ count, (traffic.run (.hear event :: deliveries count)).link =
      (traffic.link.complete sequence outcome).2
  sweep : ∃ count, (traffic.run (.sweep :: deliveries count)).link = traffic.link.sweep
  failAll : ∃ count, (traffic.run (.lose :: deliveries count)).link = traffic.link.failAll

section

variable {traffic : Traffic} {call : Nat} {handle : PendingHandle} {outcome : Outcome}

theorem run_deliveries {leaving : List PendingRequest} {rest : List (PendingRequest × Outcome)}
    (same : traffic.underway = leaving.map (fun request => (request, outcome)) ++ rest) :
    traffic.run (deliveries leaving.length) =
      { traffic with
        link := { traffic.link with pending := traffic.link.pending.resolve leaving outcome }
        underway := rest } := by
  induction leaving using List.reverseRecOn generalizing traffic rest with
  | nil =>
      obtain ⟨link, calls, underway⟩ := traffic
      obtain rfl : underway = rest := same
      rfl
  | append_singleton leaving request ih =>
      have length : (leaving ++ [request]).length = leaving.length + 1 := List.length_append
      rw [List.map_append, List.map_singleton, List.append_assoc, List.singleton_append] at same
      have place : (leaving.map fun request => (request, outcome)).length = leaving.length :=
        List.length_map ..
      have found : traffic.underway[leaving.length]? = some (request, outcome) := by
        rw [same, List.getElem?_append_right place.le, place, Nat.sub_self]
        rfl
      have others : traffic.underway.eraseIdx leaving.length =
          leaving.map (fun request => (request, outcome)) ++ rest := by
        rw [same, List.eraseIdx_append_of_length_le place.le, place, Nat.sub_self]
        rfl
      rw [length, deliveries, run_cons, take, deliver, found]
      dsimp only
      rw [others, ih rfl]
      simp only [PendingTable.resolve, List.map_append, List.map_singleton, List.append_assoc,
        List.singleton_append]

theorem run_takeOut (traffic : Traffic) (leaves : PendingRequest → Bool) (outcome : Outcome) :
    ∃ count, ((traffic.takeOut leaves outcome).run (deliveries count)).link =
      { traffic.link with pending := (traffic.link.pending.retire leaves outcome).2 } := by
  refine ⟨(traffic.link.pending.takeOut leaves).1.length, ?_⟩
  rw [run_deliveries rfl]
  rfl

theorem take_leave (traffic : Traffic) (call : Nat) : traffic.take (.leave call) = traffic.leave call := rfl

theorem run_giveUp (waiting : traffic.calls[call]? = some (.waiting handle)) :
    (traffic.run [.look call true, .leave call]).link = (traffic.link.giveUp handle).2 ∧
      (traffic.run [.look call true, .leave call]).calls[call]? =
        some (.returned handle (traffic.link.giveUp handle).1) := by
  have looked : (traffic.take (.look call true)).calls[call]? =
      some ((Waiter.waiting handle).look traffic.link.pending true) := by
    simp only [take, List.getElem?_modify, waiting, if_true, Option.map_eq_map, Option.map_some]
  have inside := (List.getElem?_eq_some_iff.mp looked).1
  rw [run_cons, run_cons, run_nil, take_leave, leave, looked]
  cases resolved : traffic.link.pending.outcome? handle with
  | some outcome =>
      simp only [Waiter.look, resolved, Link.giveUp, PendingTable.giveUp]
      refine ⟨rfl, ?_⟩
      rw [looked]
      simp only [Waiter.look, resolved]
  | none =>
      simp only [Waiter.look, resolved, Link.giveUp, PendingTable.giveUp, if_true]
      refine ⟨rfl, ?_⟩
      rw [List.getElem?_set_self inside]

theorem undisturbed (traffic : Traffic) : traffic.Undisturbed where
  giveUp call handle waiting := run_giveUp waiting
  withdraw := by
    intro call handle error sending
    have wrote : (traffic.take (.wrote call (.error error))).calls[call]? =
        some (.unsent handle error) := by
      simp only [take, List.getElem?_modify, sending, if_true, Option.map_eq_map, Option.map_some,
        Waiter.wrote]
    rw [run_cons, run_cons, run_nil, take_leave, leave, wrote]
    rfl
  complete := by
    intro event sequence outcome response
    obtain ⟨count, same⟩ :=
      traffic.run_takeOut (fun request => request.sequence == sequence) outcome
    refine ⟨count, ?_⟩
    rw [run_cons, take, response]
    exact same
  sweep := traffic.run_takeOut _ _
  failAll := traffic.run_takeOut _ _

end

end Traffic

namespace Session

/-- In every order of events each wait ends with what took its request out of the table, or with a timeout
that it has decided on before that was there to see, and nothing that comes later finds the request. A
sweep leaves no request that has waited for the time that a response may take. With nobody in between the
call, or the keep-alive, gets what took its request out. -/
theorem wait_ends_once (config : SessionConfig) (handlers : HandlerTable) (sink : Sink) :
    let traffic := Traffic.starting config handlers sink
    let session := starting config handlers sink
    (∀ steps step call handle outcome, traffic.IsSpaced (steps ++ [step]) →
      (traffic.run steps).calls[call]? ≠ some (.returned handle outcome) →
      (traffic.run (steps ++ [step])).calls[call]? = some (.returned handle outcome) →
        traffic.EndsOnce (steps ++ [step]) call handle outcome) ∧
    (∀ steps, ∀ request ∈ (traffic.run (steps ++ [.sweep])).link.pending.requests,
      (traffic.run steps).link.now <
        request.registeredAt + (traffic.run steps).link.config.responseTimeout) ∧
    (∀ steps, (traffic.run steps).Undisturbed) ∧
    ∀ moves move, session.HasRoom (moves ++ [move]) → session.IsHonest (moves ++ [move]) →
      (∀ handle outcome, (session.run moves).Concludes handle move outcome →
        session.EndsOnce moves move handle outcome) ∧
      ((session.run moves).listener = .reading →
        ∀ request ∈ ((session.run moves).move .sweep).link.pending.requests,
          (session.run moves).link.now < request.registeredAt + config.responseTimeout) := by
  intro traffic session
  refine ⟨?_, ?_, fun steps => Traffic.undisturbed _, ?_⟩
  · intro steps step call handle outcome spaced going returned
    exact Traffic.endsOnce_of_returned (Traffic.sound_starting config handlers sink) rfl spaced going returned
  · intro steps request waits
    rw [Traffic.run_concat] at waits
    have young := (PendingTable.mem_expire.mp waits).2
    omega
  · intro moves move room honest
    refine ⟨fun handle outcome concludes => endsOnce_of_concludes room honest concludes, ?_⟩
    intro reading request waits
    have same := ((sound_starting config handlers sink).run moves).config
    simp only [Session.move, reading, Link.sweep] at waits
    have young := (PendingTable.mem_expire.mp waits).2
    rw [same] at young
    omega

/-- An answer that has found its request, but is not there yet when the call looks at its deadline. -/
def narrowSteps : List Traffic.Step :=
  [.register .enquireLink, .wrote 0 (.ok ()), .hear (.frame ⟨.ok, 1, .enquireLinkResp⟩), .look 0 true,
    .deliver 0]

def lateMoves : List Move :=
  [.start .enquireLink, .age 30000, .sweep, .hear (.frame ⟨.ok, 1, .enquireLinkResp⟩)]

theorem wait_ends_once_sample :
    let traffic := Traffic.starting {} .standard {}
    let session := starting {} .standard {}
    traffic.IsSpaced (narrowSteps ++ [.leave 0]) ∧
      traffic.EndsOnce (narrowSteps ++ [.leave 0]) 0 ⟨1, .enquireLink, 0⟩ (.error .timeout) ∧
      session.HasRoom (lateMoves ++ [.resume]) ∧ session.IsHonest (lateMoves ++ [.resume]) ∧
      session.EndsOnce lateMoves .resume ⟨1, .enquireLink, 0⟩ (.error .timeout) := by
  intro traffic session
  have spaced : traffic.IsSpaced (narrowSteps ++ [.leave 0]) :=
    Traffic.isSpaced_of_few (by decide +kernel)
  have going : (traffic.run narrowSteps).calls[0]? ≠
      some (.returned ⟨1, .enquireLink, 0⟩ (.error .timeout)) := by
    have overdue : (traffic.run narrowSteps).calls[0]? = some (.overdue ⟨1, .enquireLink, 0⟩) := rfl
    rw [overdue]
    intro same
    cases same
  have room : session.HasRoom (lateMoves ++ [.resume]) := by decide +kernel
  have honest : session.IsHonest (lateMoves ++ [.resume]) := by
    apply honest_of_none
    simp [lateMoves]
  have resolved : (session.run lateMoves).link.pending.outcome? ⟨1, .enquireLink, 0⟩ =
      some (.error .timeout) := by decide +kernel
  have concludes : (session.run lateMoves).Concludes ⟨1, .enquireLink, 0⟩ .resume (.error .timeout) :=
    .resumed rfl resolved
  obtain ⟨ends, _, _, concluded⟩ := wait_ends_once {} .standard {}
  exact ⟨spaced, ends narrowSteps (.leave 0) 0 _ _ spaced going rfl, room, honest,
    (concluded lateMoves .resume room honest).1 _ _ concludes⟩

/-- The call has found its deadline over, and before it removes its request the connection is lost. -/
def lostSteps : List Traffic.Step :=
  [.register .enquireLink, .wrote 0 (.ok ()), .look 0 true, .lose, .deliver 0, .leave 0]

/-- The loss of the connection has retired the request, and the call returns a timeout. So it does when the
listener has taken the request out for its response before the deadline. -/
theorem timed_out_though_retired :
    let start := Traffic.starting {} .standard {}
    let request : PendingRequest := ⟨1, .enquireLink, 0, 0⟩
    let answer : Frame := ⟨.ok, 1, .enquireLinkResp⟩
    ((start.run (lostSteps.take 3)).link.pending.requests = [request] ∧
      (start.run (lostSteps.take 4)).link.pending.requests = [] ∧
      (start.run lostSteps).link.pending.outcome? request.handle = some (.error .connectionLost) ∧
      (start.run lostSteps).calls[0]? = some (.returned request.handle (.error .timeout))) ∧
    (start.run (narrowSteps.take 3)).link.pending.requests = [] ∧
      (start.run (narrowSteps.take 3)).calls[0]? = some (.waiting request.handle) ∧
      (start.run narrowSteps).link.pending.outcome? request.handle = some (.ok answer) ∧
      (start.run (narrowSteps ++ [.leave 0])).calls[0]? =
        some (.returned request.handle (.error .timeout)) :=
  ⟨⟨rfl, rfl, rfl, rfl⟩, rfl, rfl, rfl, rfl⟩

end Session

end Smpp
