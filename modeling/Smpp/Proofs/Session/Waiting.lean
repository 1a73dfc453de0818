import Smpp.Proofs.Session.Closing
import Smpp.Proofs.Session.Sending

/-!
How a wait ends. A request leaves the table in one move of a run, and what that move was is what its sender
gets to see, however late: a response, the sweep, the deadline of the wait, or the loss of the connection.
Whatever of these comes after that finds nothing under the number.
-/

namespace Smpp

theorem prefix_of_split {α : Type} {whole first rest : List α} {one : α}
    (split : whole = first ++ one :: rest) : first ++ [one] <+: whole :=
  ⟨rest, by rw [split, List.append_assoc, List.singleton_append]⟩

/-- What is gone for good has gone in one step. -/
theorem eq_of_departures {α : Type} (present : List α → Prop) {whole first second : List α} {one two : α}
    (gone : ∀ {earlier longer : List α} {step : α}, present earlier → ¬ present (earlier ++ [step]) →
      earlier ++ [step] <+: longer → ¬ present longer)
    (waits : present first) (left : ¬ present (first ++ [one])) (initial : first ++ [one] <+: whole)
    (waitsToo : present second) (leftToo : ¬ present (second ++ [two]))
    (initialToo : second ++ [two] <+: whole) : first = second := by
  have later : ∀ {early late : List α} {step other : α}, present early → ¬ present (early ++ [step]) →
      early ++ [step] <+: whole → present late → late ++ [other] <+: whole →
        late.length ≤ early.length := by
    intro early late step other waits left initial still starts
    by_contra longer
    have inside : early ++ [step] <+: late := by
      apply List.prefix_of_prefix_length_le initial ((List.prefix_append _ _).trans starts)
      rw [List.length_append, List.length_singleton]
      omega
    exact gone waits left inside still
  have same : first.length = second.length :=
    Nat.le_antisymm (later waitsToo leftToo initialToo waits initial)
      (later waits left initial waitsToo initialToo)
  have firstStarts : first <+: whole := (List.prefix_append _ _).trans initial
  have secondStarts : second <+: whole := (List.prefix_append _ _).trans initialToo
  exact (List.prefix_of_prefix_length_le firstStarts secondStarts (Nat.le_of_eq same)).eq_of_length same

namespace PendingTable

def Stands (table : PendingTable) (handle : PendingHandle) : Prop :=
  (∃ request ∈ table.requests, request.handle = handle) ∨ ∃ outcome, table.outcome? handle = some outcome

section

variable {kind : Outcome → Prop} {table after : PendingTable} {request : PendingRequest}
  {handle : PendingHandle}

theorem Ticketed.eq_of_ticket (ticketed : table.Ticketed) {first second : PendingRequest}
    (firstMember : first ∈ table.requests) (secondMember : second ∈ table.requests)
    (same : first.ticket = second.ticket) : first = second :=
  List.inj_on_of_nodup_map (List.nodup_append.mp ticketed.once).1 firstMember secondMember same

theorem Stands.evolves (stands : table.Stands handle) (ticketed : table.Ticketed)
    (evolves : table.Evolves kind after) : after.Stands handle := by
  rcases stands with ⟨request, waits, rfl⟩ | ⟨outcome, resolved⟩
  · rcases evolves.waits_or_resolved ticketed waits with still | ⟨outcome, _, resolved⟩
    · exact Or.inl ⟨request, still, rfl⟩
    · exact Or.inr ⟨outcome, resolved⟩
  · exact Or.inr ⟨outcome, evolves.outcome?_eq ticketed resolved⟩

theorem giveUp_of_waiting (ticketed : table.Ticketed) (waits : request ∈ table.requests) :
    table.giveUp request.handle =
      (.error .timeout, (table.complete request.sequence (.error .timeout)).2) := by
  rw [giveUp, ticketed.waiting waits]
  rfl

theorem Stands.eq_of_sequence (stands : table.Stands handle) (unresolved : table.outcome? handle = none)
    (distinct : (table.requests.map PendingRequest.sequence).Nodup) (waits : request ∈ table.requests)
    (same : request.sequence = handle.sequence) : request.handle = handle := by
  rcases stands with ⟨own, member, rfl⟩ | ⟨outcome, resolved⟩
  · rw [List.inj_on_of_nodup_map distinct waits member same]
  · rw [unresolved] at resolved
    cases resolved

theorem Stands.altersOnly_giveUp (stands : table.Stands handle) (ticketed : table.Ticketed)
    (distinct : (table.requests.map PendingRequest.sequence).Nodup) :
    table.AltersOnly (table.giveUp handle).2 handle.ticket := by
  unfold giveUp
  cases resolved : table.outcome? handle with
  | some outcome => exact altersOnly_refl _ _
  | none =>
      apply ticketed.altersOnly_complete
      intro request waits same
      rw [← stands.eq_of_sequence resolved distinct waits same]
      rfl

theorem Stands.mem_giveUp (stands : table.Stands handle)
    (distinct : (table.requests.map PendingRequest.sequence).Nodup) (waits : request ∈ table.requests)
    (other : request.handle ≠ handle) : request ∈ (table.giveUp handle).2.requests := by
  unfold giveUp
  cases resolved : table.outcome? handle with
  | some outcome => exact waits
  | none =>
      refine mem_complete.mpr ⟨waits, ?_⟩
      intro same
      exact other (stands.eq_of_sequence resolved distinct waits same)

end

end PendingTable

namespace Link

section

variable {before middle after link : Link} {request : PendingRequest}

def Quits (before after : Link) : Prop :=
  after.pending = before.pending ∨ after.pending = before.pending.failAll.2 ∧ after.state = .disconnected

theorem Quits.refl (link : Link) : link.Quits link := Or.inl rfl

theorem Quits.evolves (quits : before.Quits after) :
    before.pending.Evolves (fun _ => True) after.pending := by
  rcases quits with same | ⟨same, _⟩
  · rw [same]
    exact .refl
  · rw [same]
    exact .retire .refl _ trivial

theorem Quits.issued (quits : before.Quits after) : after.pending.issued = before.pending.issued := by
  rcases quits with same | ⟨same, _⟩
  · rw [same]
  · rw [same]
    rfl

structure Loses (after : Link) (request : PendingRequest) : Prop where
  state : after.state = .disconnected
  empty : after.pending.requests = []
  outcome : after.pending.outcome? request.handle = some (.error .connectionLost)

theorem Quits.stays_or_loses (quits : middle.Quits after) (ticketed : middle.pending.Ticketed)
    (waits : request ∈ middle.pending.requests) :
    request ∈ after.pending.requests ∨ after.Loses request := by
  rcases quits with same | ⟨same, state⟩
  · rw [same]
    exact Or.inl waits
  · refine Or.inr ⟨state, ?_, ?_⟩
    · rw [same]
      exact PendingTable.failAll_eq.2
    · rw [same]
      exact ticketed.outcome?_of_leaving waits rfl

theorem quits_tearDown (link : Link) : link.Quits link.tearDown := Or.inr ⟨rfl, rfl⟩

theorem issued_send (link : Link) (body : Body) :
    (link.send body).2.pending.issued = link.pending.issued + 1 := by
  rcases link.send_cases body with ⟨writer, _, same⟩ | ⟨error, after, same, pending⟩
  · rw [same]
    rfl
  · rw [same, pending]
    rfl

theorem mem_send (listed : PendingTable.IsSequence link.pending.next)
    (room : link.pending.size < PendingTable.lastSequence.toNat) (body : Body)
    (waits : request ∈ link.pending.requests) : request ∈ (link.send body).2.pending.requests := by
  rcases link.send_cases body with ⟨writer, _, same⟩ | ⟨error, after, same, pending⟩
  · rw [same]
    exact List.mem_cons_of_mem _ waits
  · have taken := PendingTable.complete_registered listed room body.commandId link.now
      (.error .connectionLost)
    have requests : after.pending.requests = link.pending.requests := by
      rw [pending]
      exact (congrArg PendingTable.requests taken).trans rfl
    rw [same, requests]
    exact waits

inductive Asks (before : Link) : Link → Prop
  | refl : before.Asks before
  | send {middle : Link} (earlier : before.Asks middle) (body : Body) : before.Asks (middle.send body).2

theorem Asks.reaches (asks : before.Asks after) : before.Reaches True after := by
  induction asks with
  | refl => exact .refl
  | send _ body ih => exact ih.trans (reaches_send _ body)

theorem Asks.mem (asks : before.Asks after) (listed : PendingTable.IsSequence before.pending.next)
    (room : before.pending.size + (after.pending.issued - before.pending.issued) ≤
      PendingTable.lastSequence.toNat)
    (waits : request ∈ before.pending.requests) : request ∈ after.pending.requests := by
  induction asks with
  | refl => exact waits
  | @send middle earlier body ih =>
      have evolves := earlier.reaches.spares.pending
      have sizes := evolves.size_le
      rw [issued_send] at room
      apply mem_send (evolves.isSequence_next listed)
      · omega
      · exact ih (by omega)

theorem asks_submit {source destination : String} {segment : Segment} {wantsReceipt : Bool}
    (earlier : before.Asks link) :
    before.Asks (link.submit source destination segment wantsReceipt).2 := by
  unfold submit
  split
  · exact earlier.send _
  · exact earlier

theorem asks_submitAll {source destination : String} {wantsReceipt : Bool} {segments : List Segment}
    (earlier : before.Asks link) :
    before.Asks (link.submitAll source destination wantsReceipt segments).2 := by
  induction segments generalizing link with
  | nil => exact earlier
  | cons segment others ih =>
      have first : before.Asks (link.submit source destination segment wantsReceipt).2 :=
        asks_submit earlier
      unfold submitAll
      split
      · rename_i failed
        rw [failed] at first
        exact first
      · rename_i submitted
        rw [submitted] at first
        have rest := ih first
        split
        · rename_i failed
          rw [failed] at rest
          exact rest
        · rename_i done
          rw [done] at rest
          exact rest

end

end Link

namespace Listener

variable {link : Link}

theorem quits_finish (link : Link) (outcome : Except SessionError Unit) :
    link.Quits (finish link outcome).1 := link.quits_tearDown

theorem quits_finish_written {frame : Frame} {after : Link} {written : Except SessionError Unit}
    (wrote : link.write frame = (written, after)) (outcome : Except SessionError Unit) :
    link.Quits (finish after outcome).1 := by
  have pending := link.pending_write frame
  rw [wrote] at pending
  exact Or.inr ⟨by rw [← pending]; rfl, rfl⟩

theorem quits_of_written {frame : Frame} {after : Link} {written : Except SessionError Unit}
    (wrote : link.write frame = (written, after)) : link.Quits after := by
  have pending := link.pending_write frame
  rw [wrote] at pending
  exact Or.inl pending

theorem quits_hear (link : Link) {event : Inbound.Event} (other : event.response? = none) :
    link.Quits (hear link event).1 := by
  cases event with
  | frame frame =>
      have request : frame.isResponse = false := by
        simpa [Inbound.Event.response?] using other
      rw [hear, onFrame, request]
      exact Or.inl rfl
  | malformed header error =>
      have request : header.commandId.isResponse = false := by
        simpa [Inbound.Event.response?] using other
      rw [hear, onMalformed, request]
      simp only [Bool.false_eq_true, if_false]
      unfold reply
      split
      · rename_i wrote
        exact quits_of_written wrote
      · rename_i wrote
        exact quits_finish_written wrote _
  | desync error => exact quits_finish link _
  | closed => exact quits_finish link _
  | cutOff octets => exact quits_finish link _

theorem quits_handled (link : Link) (frame : Frame) (ending : HandlerEnd) :
    link.Quits (handled link frame ending).1 := by
  unfold handled
  split
  · exact .refl link
  · split
    · rename_i wrote
      exact quits_finish_written wrote _
    · rename_i wrote
      split
      · have pending := link.pending_write (answerTo frame ending.status)
        rw [wrote] at pending
        exact Or.inr ⟨by rw [← pending]; rfl, rfl⟩
      · exact quits_of_written wrote

theorem quits_stop (link : Link) : link.Quits (stop link).1 := by
  unfold stop
  split
  · exact Or.inr ⟨rfl, rfl⟩
  · exact .refl link

end Listener

namespace Session

section

variable {session : Session}

theorem quits_startLeaving (session : Session) (result : Result) :
    session.link.Quits (session.startLeaving result).link := by
  unfold startLeaving
  dsimp only
  split
  · exact Or.inl rfl
  · exact Or.inr ⟨rfl, rfl⟩

theorem quits_conclude (session : Session) (purpose : Purpose) (outcome : Outcome) :
    session.link.Quits (session.conclude purpose outcome).link := by
  rcases session.conclude_cases purpose outcome with
    ⟨_, _, _, _, _, same⟩ | ⟨result, _, same⟩ | ⟨result, _, same⟩
  · rw [same]
    exact Or.inl rfl
  · rw [same]
    exact quits_startLeaving session result
  · rw [same]
    exact Or.inl rfl

theorem quits_await (session : Session) (purpose : Purpose) (body : Body) :
    (session.link.send body).2.Quits (session.await purpose body).link := by
  unfold await
  split
  · rename_i sent
    rw [sent]
    exact .refl _
  · rename_i failed
    rw [failed]
    exact quits_conclude _ purpose _

theorem quits_resume (session : Session) : session.link.Quits session.resume.link := by
  unfold resume
  split
  · split
    · exact quits_conclude session _ _
    · exact .refl _
  · exact Or.inr ⟨rfl, rfl⟩
  · exact Or.inl rfl
  · exact .refl _

theorem asks_start (session : Session) (request : Request) :
    ∃ first middle : Link, first.pending = session.link.pending ∧ first.Asks middle ∧
      middle.Quits (session.start request).link := by
  cases request with
  | bind credentials =>
      simp only [start]
      split
      · exact ⟨session.link, _, rfl, .send .refl _, quits_await session _ _⟩
      · exact ⟨_, _, rfl, .refl, .refl session.link⟩
  | submit source destination segment wantsReceipt =>
      exact ⟨session.link, _, rfl, Link.asks_submit .refl, .refl _⟩
  | sendMessage source destination text =>
      simp only [start]
      split
      · split
        · exact ⟨_, _, rfl, .refl, .refl session.link⟩
        · exact ⟨session.link, _, rfl, Link.asks_submitAll .refl, .refl _⟩
      · exact ⟨_, _, rfl, .refl, .refl session.link⟩
  | messageId handle => exact ⟨_, _, rfl, .refl, .refl session.link⟩
  | enquireLink =>
      simp only [start]
      split
      · exact ⟨_, _, rfl, .refl, .refl session.link⟩
      · exact ⟨session.link, _, rfl, .send .refl _, quits_await session _ _⟩
  | unbind =>
      simp only [start]
      split
      · exact ⟨session.link.setState .unbound, _, rfl, .send .refl _, quits_await _ _ _⟩
      · exact ⟨session.link, _, rfl, .refl, quits_startLeaving session _⟩
  | disconnect => exact ⟨session.link, _, rfl, .refl, quits_startLeaving session _⟩
  | waitClosed =>
      simp only [start]
      split
      · exact ⟨_, _, rfl, .refl, .refl session.link⟩
      · exact ⟨_, _, rfl, .refl, .refl session.link⟩

theorem pending_learn (link : Link) (pinger : Pinger) (outcome : Outcome) :
    (Pinger.learn link pinger outcome).1.pending = link.pending := by
  rcases learn_cases link pinger outcome with same | same
  · rw [same]
  · rw [same]
    rfl

theorem asks_ask (session : Session) (pinger : Pinger) :
    ∃ middle, session.link.Asks middle ∧ middle.Quits (Pinger.ask session.link pinger).1 := by
  unfold Pinger.ask
  split
  · refine ⟨_, .send .refl .enquireLink, ?_⟩
    dsimp only
    split
    · rename_i sent
      rw [sent]
      exact .refl _
    · rename_i failed
      rw [failed]
      exact Or.inl (pending_learn _ _ _)
  · exact ⟨_, .refl, .refl session.link⟩

def IsAwaited (session : Session) (handle : PendingHandle) : Prop :=
  (∃ purpose, session.call = .awaiting purpose handle) ∨ session.pinger.phase = .asking handle

def RunsOut (session : Session) (move : Move) (handle : PendingHandle) : Prop :=
  (∃ purpose, session.call = .awaiting purpose handle) ∧ move = .giveUp ∨
    session.pinger.phase = .asking handle ∧ move = .miss

def Move.isFrame : Move → Bool
  | hear (.frame _) => true
  | _ => false

/-- What a move takes a request out of the table by: the listener hears the response with its number, it
sweeps, the wait for it runs out, or the connection is lost. -/
inductive Retires (session : Session) (request : PendingRequest) : Move → Outcome → Prop
  | answered {event : Inbound.Event} {outcome : Outcome} (reading : session.listener = .reading)
      (response : event.response? = some (request.sequence, outcome)) :
      Retires session request (.hear event) outcome
  | swept (reading : session.listener = .reading)
      (stale : session.link.config.responseTimeout ≤ session.link.now - request.registeredAt) :
      Retires session request .sweep (.error .timeout)
  | overdue {move : Move} (late : session.RunsOut move request.handle) :
      Retires session request move (.error .timeout)
  | lost {move : Move} (other : move.isFrame = false)
      (loses : (session.move move).link.Loses request) :
      Retires session request move (.error .connectionLost)

def AccountsFor (session : Session) (move : Move) (request : PendingRequest) : Prop :=
  request ∈ (session.move move).link.pending.requests ∨
    ∃ outcome, session.Retires request move outcome ∧
      (session.move move).link.pending.outcome? request.handle = some outcome

/-- What a table needs for a request to leave it in one of these ways only. -/
structure IsKept (session : Session) : Prop where
  listed : PendingTable.IsSequence session.link.pending.next
  ticketed : session.link.pending.Ticketed
  distinct : (session.link.pending.requests.map PendingRequest.sequence).Nodup
  stands : ∀ handle, session.IsAwaited handle → session.link.pending.Stands handle

section

variable {request : PendingRequest}

theorem IsKept.asks (kept : session.IsKept) {first middle after : Link}
    (same : first.pending = session.link.pending) (asks : first.Asks middle) (quits : middle.Quits after)
    (room : session.link.pending.size + (after.pending.issued - session.link.pending.issued) ≤
      PendingTable.lastSequence.toNat)
    (waits : request ∈ session.link.pending.requests) :
    request ∈ after.pending.requests ∨ after.Loses request := by
  rw [quits.issued, ← same] at room
  rw [← same] at waits
  have listed : PendingTable.IsSequence first.pending.next := by
    rw [same]
    exact kept.listed
  have ticketed : first.pending.Ticketed := by
    rw [same]
    exact kept.ticketed
  apply quits.stays_or_loses
  · exact ticketed.evolves asks.reaches.spares.pending
  · exact asks.mem listed room waits

theorem IsKept.gaveUp (kept : session.IsKept) {handle : PendingHandle} {move : Move}
    (late : session.RunsOut move handle) {after : Link} (quits : (session.link.giveUp handle).2.Quits after)
    (waits : request ∈ session.link.pending.requests) :
    request ∈ after.pending.requests ∨ after.Loses request ∨
      request.handle = handle ∧ after.pending.outcome? request.handle = some (.error .timeout) := by
  have stands : session.link.pending.Stands handle := by
    apply kept.stands
    rcases late with ⟨awaiting, _⟩ | ⟨asking, _⟩
    · exact Or.inl awaiting
    · exact Or.inr asking
  have evolves := (session.link.spares_giveUp handle).pending
  have ticketed := kept.ticketed.evolves evolves
  by_cases own : request.handle = handle
  · subst own
    refine Or.inr (Or.inr ⟨rfl, ?_⟩)
    have resolved : (session.link.giveUp request.handle).2.pending.outcome? request.handle =
        some (.error .timeout) := by
      have found := kept.ticketed.outcome?_giveUp stands
      have given := congrArg Prod.fst (PendingTable.giveUp_of_waiting kept.ticketed waits)
      rw [given] at found
      exact found
    rcases quits with same | ⟨same, _⟩
    · rw [same]
      exact resolved
    · rw [same]
      exact ticketed.outcome?_retire.mpr (Or.inr resolved)
  · have stays : request ∈ (session.link.giveUp handle).2.pending.requests :=
      stands.mem_giveUp kept.distinct waits own
    rcases quits.stays_or_loses ticketed stays with still | loses
    · exact Or.inl still
    · exact Or.inr (Or.inl loses)

theorem accountsFor_of_loss {move : Move} (other : move.isFrame = false)
    (cases : request ∈ (session.move move).link.pending.requests ∨ (session.move move).link.Loses request) :
    session.AccountsFor move request := by
  rcases cases with stays | loses
  · exact Or.inl stays
  · exact Or.inr ⟨_, .lost other loses, loses.outcome⟩

theorem accountsFor_of_same {move : Move}
    (same : (session.move move).link.pending = session.link.pending)
    (waits : request ∈ session.link.pending.requests) : session.AccountsFor move request := by
  rw [AccountsFor, same]
  exact Or.inl waits

theorem IsKept.accountsFor_late (kept : session.IsKept) {handle : PendingHandle} {move : Move}
    (other : move.isFrame = false) (late : session.RunsOut move handle)
    (quits : (session.link.giveUp handle).2.Quits (session.move move).link)
    (waits : request ∈ session.link.pending.requests) : session.AccountsFor move request := by
  rcases kept.gaveUp late quits waits with stays | loses | ⟨rfl, resolved⟩
  · exact Or.inl stays
  · exact accountsFor_of_loss other (Or.inr loses)
  · exact Or.inr ⟨_, .overdue late, resolved⟩

theorem IsKept.accountsFor_hear (kept : session.IsKept) (reading : session.listener = .reading)
    (event : Inbound.Event) (waits : request ∈ session.link.pending.requests) :
    session.AccountsFor (.hear event) request := by
  have moved := move_hear reading event
  cases response : event.response? with
  | some found =>
      obtain ⟨sequence, outcome⟩ := found
      have settles := kept.ticketed.settles_complete sequence outcome
      rw [← Listener.pending_hear response] at settles
      rw [AccountsFor, moved]
      by_cases own : request.sequence = sequence
      · subst own
        exact Or.inr ⟨outcome, .answered reading response, (settles.resolved request waits rfl).2⟩
      · exact Or.inl ((settles.remaining request).mpr ⟨waits, own⟩)
  | none =>
      have quits := Listener.quits_hear session.link response
      cases event with
      | frame frame =>
          have asks : frame.isResponse = false := by
            simpa [Inbound.Event.response?] using response
          apply accountsFor_of_same _ waits
          rw [moved, Listener.hear, Listener.onFrame, asks]
          rfl
      | _ =>
          apply accountsFor_of_loss rfl
          rw [moved]
          exact quits.stays_or_loses kept.ticketed waits

theorem IsKept.accountsFor_giveUp (kept : session.IsKept)
    (waits : request ∈ session.link.pending.requests) : session.AccountsFor .giveUp request := by
  cases call : session.call with
  | awaiting purpose handle =>
      apply kept.accountsFor_late rfl (Or.inl ⟨⟨purpose, call⟩, rfl⟩) _ waits
      simp only [Session.move, Session.giveUp, call]
      exact quits_conclude _ _ _
  | leaving result =>
      have quits : session.link.Quits (session.move .giveUp).link := by
        simp only [Session.move, Session.giveUp, call]
        exact Or.inr ⟨rfl, rfl⟩
      exact accountsFor_of_loss rfl (quits.stays_or_loses kept.ticketed waits)
  | _ =>
      apply accountsFor_of_same _ waits
      simp only [Session.move, Session.giveUp, call]

theorem IsKept.accountsFor (kept : session.IsKept) {move : Move} (room : session.HasRoom [move])
    (waits : request ∈ session.link.pending.requests) : session.AccountsFor move request := by
  have fits := room.1
  cases move with
  | start asked =>
      apply accountsFor_of_loss rfl
      simp only [Session.move] at fits ⊢
      split
      · exact Or.inl waits
      · rename_i free
        rw [if_neg free] at fits
        obtain ⟨first, middle, same, asks, quits⟩ := session.asks_start asked
        exact kept.asks same asks quits fits waits
  | resume =>
      apply accountsFor_of_loss rfl
      exact session.quits_resume.stays_or_loses kept.ticketed waits
  | giveUp => exact kept.accountsFor_giveUp waits
  | drop =>
      apply accountsFor_of_same _ waits
      simp only [Session.move]
      split <;> rfl
  | hear event =>
      cases reading : session.listener with
      | reading => exact kept.accountsFor_hear reading event waits
      | _ =>
          apply accountsFor_of_same _ waits
          simp only [Session.move, reading]
  | handled ending =>
      apply accountsFor_of_loss rfl
      simp only [Session.move]
      split
      · exact (Listener.quits_handled _ _ _).stays_or_loses kept.ticketed waits
      · exact Or.inl waits
  | stop =>
      apply accountsFor_of_loss rfl
      simp only [Session.move]
      split
      · exact (Listener.quits_stop _).stays_or_loses kept.ticketed waits
      · exact Or.inl waits
  | sweep =>
      cases reading : session.listener with
      | reading =>
          simp only [AccountsFor, Session.move, reading]
          by_cases stale : session.link.config.responseTimeout ≤ session.link.now - request.registeredAt
          · refine Or.inr ⟨_, .swept reading stale, ?_⟩
            exact kept.ticketed.outcome?_of_leaving waits (decide_eq_true stale)
          · exact Or.inl (PendingTable.mem_expire.mpr ⟨waits, Nat.lt_of_not_le stale⟩)
      | _ =>
          apply accountsFor_of_same _ waits
          simp only [Session.move, reading]
  | ask =>
      apply accountsFor_of_loss rfl
      simp only [Session.move] at fits ⊢
      split
      · rename_i resting
        simp only [resting] at fits
        obtain ⟨middle, asks, quits⟩ := session.asks_ask session.pinger
        exact kept.asks rfl asks quits fits waits
      · exact Or.inl waits
  | learn =>
      apply accountsFor_of_same _ waits
      simp only [Session.move]
      split
      · split
        · exact pending_learn _ _ _
        · rfl
      · rfl
  | miss =>
      cases phase : session.pinger.phase with
      | asking handle =>
          apply kept.accountsFor_late rfl (Or.inr ⟨phase, rfl⟩) _ waits
          simp only [Session.move, phase]
          exact Or.inl (pending_learn _ _ _)
      | _ =>
          apply accountsFor_of_same _ waits
          simp only [Session.move, phase]
  | age time => exact accountsFor_of_same rfl waits

end

section

variable {handle : PendingHandle} {move : Move}

theorem IsAwaited.asking (awaited : session.IsAwaited handle) (idle : session.call.isAwaiting = false) :
    session.pinger.phase = .asking handle := by
  rcases awaited with ⟨purpose, waiting⟩ | asking
  · rw [waiting] at idle
    cases idle
  · exact asking

theorem not_awaited_startLeaving (session : Session) (result : Result) :
    ¬ (session.startLeaving result).IsAwaited handle := by
  intro awaited
  have asking := awaited.asking (session.isAwaiting_startLeaving result)
  rw [(session.rests_startLeaving result).2.1] at asking
  cases asking

theorem not_awaited_starting {config : SessionConfig} {handlers : HandlerTable} {sink : Sink} :
    ¬ (starting config handlers sink).IsAwaited handle := by
  intro awaited
  have asking := awaited.asking rfl
  cases asking

theorem asking_of_start {pinger : Pinger} (asking : pinger.start.phase = .asking handle) :
    pinger.phase = .asking handle := by
  unfold Pinger.start at asking
  split at asking
  · cases asking
  · exact asking

theorem asking_of_conclude (session : Session) {purpose : Purpose} {outcome : Outcome}
    (awaited : (session.conclude purpose outcome).IsAwaited handle) :
    session.pinger.phase = .asking handle := by
  rcases session.conclude_cases purpose outcome with
    ⟨_, _, _, _, _, same⟩ | ⟨result, _, same⟩ | ⟨result, _, same⟩
  · rw [same] at awaited
    exact asking_of_start (awaited.asking rfl)
  · rw [same] at awaited
    exact absurd awaited (not_awaited_startLeaving session result)
  · rw [same] at awaited
    exact awaited.asking rfl

theorem asking_of_await {purpose : Purpose} {body : Body}
    (awaited : (session.await purpose body).IsAwaited handle) : session.pinger.phase = .asking handle ∨
      ∃ request ∈ (session.await purpose body).link.pending.requests, request.handle = handle := by
  unfold await at awaited ⊢
  split at awaited
  · rename_i sent
    rcases awaited with ⟨purpose, waiting⟩ | asking
    · cases waiting
      exact Or.inr (Link.waits_of_send sent)
    · exact Or.inl asking
  · have asking := asking_of_conclude _ awaited
    exact Or.inl asking

theorem awaited_start {request : Request} (awaited : (session.start request).IsAwaited handle) :
    session.IsAwaited handle ∨ request = .messageId handle ∨
      ∃ waiting ∈ (session.start request).link.pending.requests, waiting.handle = handle := by
  have unsent : ∀ {other : Session} {result : Result}, other.pinger = session.pinger →
      (other.returning result).IsAwaited handle → session.IsAwaited handle := by
    intro other result same awaited
    have asking := awaited.asking rfl
    exact Or.inr (same ▸ asking)
  cases request with
  | bind credentials =>
      simp only [start] at awaited ⊢
      split at awaited
      · rename_i connected
        rw [if_pos connected]
        exact (asking_of_await awaited).imp Or.inr Or.inr
      · exact Or.inl (unsent rfl awaited)
  | submit source destination segment wantsReceipt => exact Or.inl (unsent rfl awaited)
  | sendMessage source destination text =>
      simp only [start] at awaited
      split at awaited
      · split at awaited
        · exact Or.inl (unsent rfl awaited)
        · exact Or.inl (unsent rfl awaited)
      · exact Or.inl (unsent rfl awaited)
  | messageId other =>
      rcases awaited with ⟨purpose, waiting⟩ | asking
      · cases waiting
        exact Or.inr (Or.inl rfl)
      · exact Or.inl (Or.inr asking)
  | enquireLink =>
      simp only [start] at awaited ⊢
      split at awaited
      · exact Or.inl (unsent rfl awaited)
      · rename_i live
        rw [if_neg live]
        exact (asking_of_await awaited).imp Or.inr Or.inr
  | unbind =>
      simp only [start] at awaited ⊢
      split at awaited
      · rename_i bound
        rw [if_pos bound]
        exact (asking_of_await awaited).imp Or.inr Or.inr
      · exact absurd awaited (not_awaited_startLeaving session _)
  | disconnect => exact absurd awaited (not_awaited_startLeaving session _)
  | waitClosed =>
      simp only [start] at awaited
      split at awaited
      · exact Or.inl (Or.inr (awaited.asking rfl))
      · exact Or.inl (unsent rfl awaited)

theorem awaited_resume (awaited : session.resume.IsAwaited handle) : session.IsAwaited handle := by
  unfold resume at awaited
  split at awaited
  · split at awaited
    · exact Or.inr (asking_of_conclude session awaited)
    · exact awaited
  · exact Or.inr (awaited.asking rfl)
  · have asking := awaited.asking rfl
    cases asking
  · exact awaited

theorem awaited_giveUp (awaited : session.giveUp.IsAwaited handle) : session.IsAwaited handle := by
  unfold giveUp at awaited
  dsimp only at awaited
  split at awaited
  · have asking := asking_of_conclude _ awaited
    exact Or.inr asking
  · exact Or.inr (awaited.asking rfl)
  · exact awaited
  · exact awaited
  · exact awaited

theorem not_asking_learn (link : Link) (pinger : Pinger) (outcome : Outcome) :
    (Pinger.learn link pinger outcome).2.phase ≠ .asking handle := by
  unfold Pinger.learn
  split <;> nofun

theorem asking_ask {link : Link} {pinger : Pinger}
    (asking : (Pinger.ask link pinger).2.phase = .asking handle) :
    ∃ request ∈ (Pinger.ask link pinger).1.pending.requests, request.handle = handle := by
  unfold Pinger.ask at asking ⊢
  dsimp only at asking ⊢
  split at asking
  · rename_i bound
    rw [if_pos bound]
    split at asking
    · rename_i sent
      cases asking
      exact Link.waits_of_send sent
    · exact absurd asking (not_asking_learn _ _ _)
  · cases asking

theorem awaited_move (awaited : (session.move move).IsAwaited handle) :
    session.IsAwaited handle ∨ move = .start (.messageId handle) ∨
      ∃ request ∈ (session.move move).link.pending.requests, request.handle = handle := by
  cases move with
  | start request =>
      simp only [Session.move] at awaited ⊢
      split at awaited
      · exact Or.inl awaited
      · rename_i free
        rw [if_neg free]
        rcases awaited_start awaited with before | rfl | sent
        · exact Or.inl before
        · exact Or.inr (Or.inl rfl)
        · exact Or.inr (Or.inr sent)
  | resume => exact Or.inl (awaited_resume awaited)
  | giveUp => exact Or.inl (awaited_giveUp awaited)
  | drop =>
      simp only [Session.move] at awaited
      split at awaited
      · exact Or.inl (Or.inr (awaited.asking rfl))
      · exact Or.inl awaited
  | ask =>
      simp only [Session.move] at awaited ⊢
      split at awaited
      · rcases awaited with waiting | asking
        · exact Or.inl (Or.inl waiting)
        · exact Or.inr (Or.inr (asking_ask asking))
      · exact Or.inl awaited
  | learn =>
      simp only [Session.move] at awaited
      split at awaited
      · split at awaited
        · rcases awaited with waiting | asking
          · exact Or.inl (Or.inl waiting)
          · exact absurd asking (not_asking_learn _ _ _)
        · exact Or.inl awaited
      · exact Or.inl awaited
  | miss =>
      simp only [Session.move] at awaited
      split at awaited
      · rcases awaited with waiting | asking
        · exact Or.inl (Or.inl waiting)
        · exact absurd asking (not_asking_learn _ _ _)
      · exact Or.inl awaited
  | age time => exact Or.inl awaited
  | hear event =>
      simp only [Session.move] at awaited
      split at awaited <;> exact Or.inl awaited
  | handled ending =>
      simp only [Session.move] at awaited
      split at awaited <;> exact Or.inl awaited
  | stop =>
      simp only [Session.move] at awaited
      split at awaited <;> exact Or.inl awaited
  | sweep =>
      simp only [Session.move] at awaited
      split at awaited <;> exact Or.inl awaited

end

end

section

variable {start : Session} {moves : List Move} {handle : PendingHandle}

def Knows (start : Session) (moves : List Move) (handle : PendingHandle) : Prop :=
  ∃ earlier, earlier <+: moves ∧
    ∃ request ∈ (start.run earlier).link.pending.requests, request.handle = handle

/-- The application asks only about requests that the session has made. -/
def IsHonest (start : Session) (moves : List Move) : Prop :=
  ∀ earlier handle, earlier ++ [.start (.messageId handle)] <+: moves → start.Knows earlier handle

theorem Knows.mono {longer : List Move} (knows : start.Knows moves handle) (initial : moves <+: longer) :
    start.Knows longer handle := by
  obtain ⟨earlier, starts, waits⟩ := knows
  exact ⟨earlier, starts.trans initial, waits⟩

theorem Knows.stands (knows : start.Knows moves handle) (ticketed : start.link.pending.Ticketed) :
    (start.run moves).link.pending.Stands handle := by
  obtain ⟨earlier, ⟨later, rfl⟩, waits⟩ := knows
  rw [run_append]
  have known : (start.run earlier).link.pending.Stands handle := Or.inl waits
  exact known.evolves (ticketed.evolves (start.evolves_run earlier)) (evolves_run _ later)

theorem knows_of_awaited (quiet : ∀ handle, ¬ start.IsAwaited handle) (honest : start.IsHonest moves)
    (awaited : (start.run moves).IsAwaited handle) : start.Knows moves handle := by
  induction moves using List.reverseRecOn with
  | nil => exact absurd awaited (quiet handle)
  | append_singleton moves move ih =>
      have initial : moves <+: moves ++ [move] := List.prefix_append _ _
      have earlier : start.IsHonest moves := fun first other asks => honest first other (asks.trans initial)
      have last := awaited
      rw [run_concat] at last
      rcases awaited_move last with before | rfl | sent
      · exact (ih earlier before).mono initial
      · exact (honest moves handle (List.prefix_refl _)).mono initial
      · rw [← run_concat] at sent
        exact ⟨_, List.prefix_refl _, sent⟩

theorem hasRoom_append {first second : List Move} :
    start.HasRoom (first ++ second) ↔ start.HasRoom first ∧ (start.run first).HasRoom second := by
  induction first generalizing start with
  | nil => exact ⟨fun room => ⟨trivial, room⟩, And.right⟩
  | cons move moves ih =>
      rw [List.cons_append, HasRoom, HasRoom, ih, and_assoc]
      rfl

theorem isKept_run {config : SessionConfig} {handlers : HandlerTable} {sink : Sink}
    (room : (starting config handlers sink).HasRoom moves)
    (honest : (starting config handlers sink).IsHonest moves) :
    ((starting config handlers sink).run moves).IsKept where
  listed := ((sound_starting config handlers sink).run moves).next
  ticketed := PendingTable.ticketed_new.evolves ((starting config handlers sink).evolves_run moves)
  distinct := by
    obtain ⟨usage, retirements, table, accounts⟩ := accounts_run Usage.accounts_new rfl moves room
    rw [← table]
    exact accounts.distinct
  stands := by
    intro handle awaited
    have knows := knows_of_awaited (fun _ => not_awaited_starting) honest awaited
    exact knows.stands PendingTable.ticketed_new

/-- So few numbers have been given out since before the request with this ticket that its own has not come
round again. -/
def HasNumbers (start : Session) (moves : List Move) (ticket : Nat) : Prop :=
  ∃ earlier, earlier <+: moves ∧ (start.run earlier).link.pending.issued ≤ ticket ∧
    (start.run earlier).link.pending.size +
        ((start.run moves).link.pending.issued - (start.run earlier).link.pending.issued) ≤
      PendingTable.lastSequence.toNat

/-- The request leaves the table in this move with this outcome, for good. The outcome is a frame only if
the listener hears that frame in the move, and a response that it hears later changes nothing. -/
structure RetiredBy (start : Session) (request : PendingRequest) (earlier : List Move) (move : Move)
    (outcome : Outcome) : Prop where
  waits : request ∈ (start.run earlier).link.pending.requests
  retires : (start.run earlier).Retires request move outcome
  seen : ∀ frame, outcome = .ok frame ↔ move = .hear (.frame frame)
  gone : ∀ later, ∀ other ∈ (start.run (earlier ++ move :: later)).link.pending.requests,
    other.ticket ≠ request.ticket
  settled : ∀ later,
    (start.run (earlier ++ move :: later)).link.pending.outcome? request.handle = some outcome
  free : ∀ later, start.HasNumbers (earlier ++ move :: later) request.ticket →
    (start.run (earlier ++ move :: later)).link.pending.isOutstanding request.sequence = false
  late : ∀ later event response, start.HasNumbers (earlier ++ move :: later) request.ticket →
    event.response? = some (request.sequence, response) →
      (start.run (earlier ++ move :: later)).move (.hear event) = start.run (earlier ++ move :: later)

section

variable {request : PendingRequest} {move : Move} {outcome : Outcome}

theorem Retires.seen {session : Session} (retires : session.Retires request move outcome) (frame : Frame) :
    outcome = .ok frame ↔ move = .hear (.frame frame) := by
  cases retires with
  | answered _ response =>
      rw [Inbound.Event.eq_frame_iff response, Move.hear.injEq]
  | swept _ _ => exact ⟨nofun, nofun⟩
  | overdue late =>
      refine ⟨nofun, ?_⟩
      rintro rfl
      rcases late with ⟨_, impossible⟩ | ⟨_, impossible⟩
      · cases impossible
      · cases impossible
  | lost other _ =>
      refine ⟨nofun, ?_⟩
      rintro rfl
      cases other

theorem evolves_of_prefix (start : Session) {earlier : List Move} (starts : earlier <+: moves) :
    (start.run earlier).link.pending.Evolves (fun _ => True) (start.run moves).link.pending := by
  obtain ⟨later, rfl⟩ := starts
  rw [run_append]
  exact evolves_run _ later

theorem ticket_of_numbers {earlier : List Move} (ticketed : start.link.pending.Ticketed)
    (listed : PendingTable.IsSequence start.link.pending.next) (starts : earlier <+: moves)
    (waits : request ∈ (start.run earlier).link.pending.requests)
    (numbers : start.HasNumbers moves request.ticket) :
    ∀ other ∈ (start.run moves).link.pending.requests, other.sequence = request.sequence →
      other.ticket = request.ticket := by
  obtain ⟨base, initial, since, room⟩ := numbers
  have given := (ticketed.evolves (start.evolves_run earlier)).ticket_lt waits
  -- The numbers are counted from before the request, so that they count it.
  have before : base <+: earlier := by
    rcases List.prefix_or_prefix_of_prefix initial starts with before | after
    · exact before
    · have grown := (start.evolves_of_prefix after).size_le.1
      omega
  apply PendingTable.ticket_of_sequence (start.evolves_of_prefix before) (start.evolves_of_prefix starts)
  · exact ticketed.evolves (start.evolves_run base)
  · exact (start.evolves_run base).isSequence_next listed
  · exact waits
  · exact since
  · exact room

theorem retiredBy_of_retires {earlier : List Move} (ticketed : start.link.pending.Ticketed)
    (listed : PendingTable.IsSequence start.link.pending.next)
    (waits : request ∈ (start.run earlier).link.pending.requests)
    (retires : (start.run earlier).Retires request move outcome)
    (resolved : ((start.run earlier).move move).link.pending.outcome? request.handle = some outcome) :
    start.RetiredBy request earlier move outcome := by
  have ran : ∀ later, start.run (earlier ++ move :: later) = ((start.run earlier).move move).run later := by
    intro later
    rw [run_append, run_cons]
  have counts : ∀ moves, (start.run moves).link.pending.Ticketed :=
    fun moves => ticketed.evolves (start.evolves_run moves)
  have settled : ∀ later,
      (start.run (earlier ++ move :: later)).link.pending.outcome? request.handle = some outcome := by
    intro later
    rw [ran]
    exact outcome?_run ((counts earlier).evolves (evolves_move _ move)) resolved later
  have starts : ∀ later, earlier <+: earlier ++ move :: later := fun later => List.prefix_append _ _
  have gone : ∀ later, ∀ other ∈ (start.run (earlier ++ move :: later)).link.pending.requests,
      other.ticket ≠ request.ticket := by
    intro later other member same
    have given := (counts earlier).ticket_lt waits
    rw [← same] at given
    have old := (start.evolves_of_prefix (starts later)).mem_of_issued member given
    have itself := (counts earlier).eq_of_ticket old waits same
    have waiting := (counts _).waiting member
    rw [itself, settled later] at waiting
    cases waiting
  have free : ∀ later, start.HasNumbers (earlier ++ move :: later) request.ticket →
      (start.run (earlier ++ move :: later)).link.pending.isOutstanding request.sequence = false := by
    intro later numbers
    rw [← Bool.not_eq_true, PendingTable.isOutstanding_iff]
    rintro ⟨other, member, same⟩
    apply gone later other member
    exact ticket_of_numbers ticketed listed (starts later) waits numbers other member same
  constructor
  · exact waits
  · exact retires
  · exact retires.seen
  · exact gone
  · exact settled
  · exact free
  · intro later event response numbers found
    exact (correlates_of_ticketed (counts _)).stray event _ response found (free later numbers)

theorem not_mem_of_left {first longer : List Move} {move : Move} (ticketed : start.link.pending.Ticketed)
    (waits : request ∈ (start.run first).link.pending.requests)
    (left : request ∉ (start.run (first ++ [move])).link.pending.requests)
    (starts : first ++ [move] <+: longer) : request ∉ (start.run longer).link.pending.requests := by
  intro again
  have given := (ticketed.evolves (start.evolves_run first)).ticket_lt waits
  have grown := (start.evolves_of_prefix (List.prefix_append first [move])).size_le.1
  exact left ((start.evolves_of_prefix starts).mem_of_issued again (by omega))

theorem RetiredBy.once {earlier first rest : List Move} {another : Move}
    (ticketed : start.link.pending.Ticketed) (retired : start.RetiredBy request earlier move outcome)
    (initial : earlier ++ [move] <+: moves) (whole : moves = first ++ another :: rest)
    (waits : request ∈ (start.run first).link.pending.requests)
    (left : request ∉ (start.run (first ++ [another])).link.pending.requests) : first = earlier := by
  have gone : request ∉ (start.run (earlier ++ [move])).link.pending.requests :=
    fun member => retired.gone [] request member rfl
  exact eq_of_departures (fun moves => request ∈ (start.run moves).link.pending.requests)
    (not_mem_of_left ticketed) waits left (prefix_of_split whole) retired.waits gone initial

end

section

variable {config : SessionConfig} {handlers : HandlerTable} {sink : Sink} {request : PendingRequest}

theorem IsHonest.initial {earlier : List Move} (honest : start.IsHonest moves) (starts : earlier <+: moves) :
    start.IsHonest earlier :=
  fun first handle asks => honest first handle (asks.trans starts)

theorem exists_retiredBy {first rest : List Move}
    (room : (starting config handlers sink).HasRoom (first ++ rest))
    (honest : (starting config handlers sink).IsHonest (first ++ rest))
    (waits : request ∈ ((starting config handlers sink).run first).link.pending.requests)
    (left : request ∉ ((starting config handlers sink).run (first ++ rest)).link.pending.requests) :
    ∃ earlier move later outcome, first ++ rest = earlier ++ move :: later ∧
      (starting config handlers sink).RetiredBy request earlier move outcome := by
  induction rest generalizing first with
  | nil =>
      rw [List.append_nil] at left
      exact absurd waits left
  | cons move rest ih =>
      obtain ⟨before, after⟩ := hasRoom_append.mp room
      have kept := isKept_run before (honest.initial (List.prefix_append _ _))
      rcases kept.accountsFor ⟨after.1, trivial⟩ waits with stays | ⟨outcome, retires, resolved⟩
      · rw [← run_concat] at stays
        have same : first ++ move :: rest = first ++ [move] ++ rest := by
          rw [List.append_assoc, List.singleton_append]
        rw [same] at room honest left ⊢
        exact ih room honest stays left
      · refine ⟨first, move, rest, outcome, rfl, ?_⟩
        have sound := sound_starting config handlers sink
        exact retiredBy_of_retires PendingTable.ticketed_new sound.next waits retires resolved

end

inductive Concludes (session : Session) (handle : PendingHandle) : Move → Outcome → Prop
  | resumed {purpose : Purpose} {outcome : Outcome} (waiting : session.call = .awaiting purpose handle)
      (resolved : session.link.pending.outcome? handle = some outcome) :
      Concludes session handle .resume outcome
  | gaveUp {purpose : Purpose} (waiting : session.call = .awaiting purpose handle) :
      Concludes session handle .giveUp (session.link.giveUp handle).1
  | learnt {outcome : Outcome} (asking : session.pinger.phase = .asking handle)
      (resolved : session.link.pending.outcome? handle = some outcome) :
      Concludes session handle .learn outcome
  | missed (asking : session.pinger.phase = .asking handle) :
      Concludes session handle .miss (session.link.giveUp handle).1

/-- A request that somebody has waited for has been retired once, by then, with what the wait came to. The
wait has taken no other out, and the call, or the keep-alive, goes on with what it came to. -/
structure EndsOnce (start : Session) (moves : List Move) (move : Move) (handle : PendingHandle)
    (outcome : Outcome) : Prop where
  retired : ∃ request earlier retiring later, request.handle = handle ∧
    moves ++ [move] = earlier ++ retiring :: later ∧ start.RetiredBy request earlier retiring outcome ∧
    ∀ first another rest, moves ++ [move] = first ++ another :: rest →
      request ∈ (start.run first).link.pending.requests →
      request ∉ (start.run (first ++ [another])).link.pending.requests → first = earlier
  came : ((start.run moves).link.giveUp handle).1 = outcome
  others : (start.run moves).link.pending.AltersOnly ((start.run moves).link.giveUp handle).2.pending
    handle.ticket
  pending : (start.run moves).call ≠ .awaiting .unbind handle →
    ((start.run moves).move move).link.pending = ((start.run moves).link.giveUp handle).2.pending
  returned : ∀ purpose, (start.run moves).call = .awaiting purpose handle → move = .resume ∨ move = .giveUp →
    ((start.run moves).move move).call = .returned (outcome.bind purpose.judge) ∨
      purpose = .unbind ∧ ((start.run moves).move move).call = .leaving (outcome.bind purpose.judge)
  learnt : move = .learn ∨ move = .miss → (start.run moves).move move =
    (start.run moves).withPinger
      (Pinger.learn ((start.run moves).link.giveUp handle).2 (start.run moves).pinger outcome)

section

variable {session : Session} {move : Move} {outcome : Outcome}

theorem call_startLeaving (session : Session) (result : Result) :
    (session.startLeaving result).call = .leaving result ∨
      (session.startLeaving result).call = .returned result := by
  unfold startLeaving
  dsimp only
  split
  · exact Or.inl rfl
  · exact Or.inr rfl

theorem call_conclude (session : Session) (purpose : Purpose) (outcome : Outcome) :
    (session.conclude purpose outcome).call = .returned (outcome.bind purpose.judge) ∨
      purpose = .unbind ∧
        (session.conclude purpose outcome).call = .leaving (outcome.bind purpose.judge) := by
  unfold conclude
  dsimp only
  split
  · exact Or.inl rfl
  · exact (call_startLeaving session _).symm.imp_right fun leaving => ⟨rfl, leaving⟩
  · exact Or.inl rfl

theorem pending_conclude (session : Session) {purpose : Purpose} (other : purpose ≠ .unbind)
    (outcome : Outcome) : (session.conclude purpose outcome).link.pending = session.link.pending := by
  rcases session.conclude_cases purpose outcome with
    ⟨_, _, _, _, _, same⟩ | ⟨result, unbind, _⟩ | ⟨result, _, same⟩
  · rw [same]
    rfl
  · exact absurd unbind other
  · rw [same]
    rfl

theorem giveUp_of_resolved (resolved : session.link.pending.outcome? handle = some outcome) :
    session.link.giveUp handle = (outcome, session.link) := by
  simp only [Link.giveUp, PendingTable.giveUp, resolved]

theorem Concludes.awaited (concludes : session.Concludes handle move outcome) : session.IsAwaited handle := by
  cases concludes with
  | resumed waiting _ => exact Or.inl ⟨_, waiting⟩
  | gaveUp waiting => exact Or.inl ⟨_, waiting⟩
  | learnt asking _ => exact Or.inr asking
  | missed asking => exact Or.inr asking

theorem Concludes.came (concludes : session.Concludes handle move outcome) :
    (session.link.giveUp handle).1 = outcome := by
  cases concludes with
  | resumed _ resolved => rw [giveUp_of_resolved resolved]
  | gaveUp _ => rfl
  | learnt _ resolved => rw [giveUp_of_resolved resolved]
  | missed _ => rfl

theorem Concludes.move_cases (concludes : session.Concludes handle move outcome) :
    (∃ purpose, session.call = .awaiting purpose handle ∧ (move = .resume ∨ move = .giveUp) ∧
      session.move move =
        ({ session with link := (session.link.giveUp handle).2 } : Session).conclude purpose outcome) ∨
    (move = .learn ∨ move = .miss) ∧ session.move move =
      session.withPinger (Pinger.learn (session.link.giveUp handle).2 session.pinger outcome) := by
  cases concludes with
  | @resumed purpose _ waiting resolved =>
      refine Or.inl ⟨_, waiting, Or.inl rfl, ?_⟩
      have resumes : session.move .resume = session.conclude purpose outcome := by
        simp only [Session.move, resume, waiting, resolved]
      rw [resumes, giveUp_of_resolved resolved]
  | gaveUp waiting =>
      refine Or.inl ⟨_, waiting, Or.inr rfl, ?_⟩
      simp only [Session.move, giveUp, waiting]
  | learnt asking resolved =>
      refine Or.inr ⟨Or.inl rfl, ?_⟩
      simp only [Session.move, asking, resolved, giveUp_of_resolved resolved]
  | missed asking =>
      refine Or.inr ⟨Or.inr rfl, ?_⟩
      simp only [Session.move, asking]

theorem not_learning (going : move = .resume ∨ move = .giveUp) : ¬ (move = .learn ∨ move = .miss) := by
  rcases going with rfl | rfl
  · nofun
  · nofun

theorem Concludes.quits (concludes : session.Concludes handle move outcome) :
    (session.link.giveUp handle).2.Quits (session.move move).link := by
  rcases concludes.move_cases with ⟨purpose, _, _, same⟩ | ⟨_, same⟩
  · rw [same]
    exact quits_conclude _ purpose outcome
  · rw [same]
    exact Or.inl (pending_learn _ _ _)

end

theorem Concludes.resolved {session : Session} {move : Move} {outcome : Outcome} (kept : session.IsKept)
    (concludes : session.Concludes handle move outcome) :
    (session.move move).link.pending.outcome? handle = some outcome := by
  have settled := kept.ticketed.outcome?_giveUp (kept.stands handle concludes.awaited)
  have counts := kept.ticketed.evolves (session.link.spares_giveUp handle).pending
  rw [← concludes.came]
  exact concludes.quits.evolves.outcome?_eq counts settled

section

variable {config : SessionConfig} {handlers : HandlerTable} {sink : Sink} {outcome : Outcome}

theorem exists_retirement (room : (starting config handlers sink).HasRoom moves)
    (honest : (starting config handlers sink).IsHonest moves)
    (knows : (starting config handlers sink).Knows moves handle)
    (resolved : ((starting config handlers sink).run moves).link.pending.outcome? handle = some outcome) :
    ∃ request earlier retiring later, request.handle = handle ∧ moves = earlier ++ retiring :: later ∧
      (starting config handlers sink).RetiredBy request earlier retiring outcome ∧
      ∀ first another rest, moves = first ++ another :: rest →
        request ∈ ((starting config handlers sink).run first).link.pending.requests →
        request ∉ ((starting config handlers sink).run (first ++ [another])).link.pending.requests →
          first = earlier := by
  obtain ⟨first, ⟨rest, rfl⟩, request, waits, rfl⟩ := knows
  have ticketed := PendingTable.ticketed_new.evolves
    ((starting config handlers sink).evolves_run (first ++ rest))
  have left : request ∉
      ((starting config handlers sink).run (first ++ rest)).link.pending.requests := by
    intro waiting
    have unresolved := ticketed.waiting waiting
    rw [resolved] at unresolved
    cases unresolved
  obtain ⟨earlier, retiring, later, found, split, retired⟩ := exists_retiredBy room honest waits left
  have same : found = outcome := by
    have settled := retired.settled later
    rw [← split, resolved] at settled
    exact (Option.some.inj settled).symm
  subst same
  refine ⟨request, earlier, retiring, later, rfl, split, retired, ?_⟩
  intro other another others apart
  exact retired.once PendingTable.ticketed_new (prefix_of_split split) apart

theorem endsOnce_of_concludes {move : Move}
    (room : (starting config handlers sink).HasRoom (moves ++ [move]))
    (honest : (starting config handlers sink).IsHonest (moves ++ [move]))
    (concludes : ((starting config handlers sink).run moves).Concludes handle move outcome) :
    (starting config handlers sink).EndsOnce moves move handle outcome := by
  have before := honest.initial (List.prefix_append _ _)
  have kept := isKept_run (hasRoom_append.mp room).1 before
  constructor
  · have knows := knows_of_awaited (fun _ => not_awaited_starting) before concludes.awaited
    apply exists_retirement room honest (knows.mono (List.prefix_append _ _))
    rw [run_concat]
    exact concludes.resolved kept
  · exact concludes.came
  · have stands := kept.stands handle concludes.awaited
    exact stands.altersOnly_giveUp kept.ticketed kept.distinct
  · intro other
    rcases concludes.move_cases with ⟨purpose, waiting, _, same⟩ | ⟨_, same⟩
    · rw [same]
      apply pending_conclude
      rintro rfl
      exact other waiting
    · rw [same]
      exact pending_learn _ _ _
  · intro purpose waiting going
    rcases concludes.move_cases with ⟨found, waits, _, same⟩ | ⟨learns, _⟩
    · rw [waiting] at waits
      cases waits
      rw [same]
      exact call_conclude _ purpose outcome
    · exact absurd learns (not_learning going)
  · intro learns
    rcases concludes.move_cases with ⟨_, _, going, _⟩ | ⟨_, same⟩
    · exact absurd learns (not_learning going)
    · exact same

end

theorem honest_of_none (none : ∀ handle, .start (.messageId handle) ∉ moves) : start.IsHonest moves := by
  intro earlier handle asks
  have member : .start (.messageId handle) ∈ earlier ++ [.start (.messageId handle)] :=
    List.mem_append_right _ List.mem_cons_self
  exact absurd (asks.subset member) (none handle)

end

end Session

end Smpp
