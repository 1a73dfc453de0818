import Smpp.Proofs.Session.Delivery

/-!
How a request is sent while other tasks go on. It is registered, its frame is written, and it is taken back
when that has failed; what others do in between is any series of moves. A request that goes out has had its
entry since before its first octet, and one that does not leaves nothing behind.
-/

namespace Smpp

def Body.IsEncodable (body : Body) : Prop := (Frame.encode { sequence := 0, body }).failure = none

theorem Frame.failure_encode (sequence : UInt32) (body : Body) :
    (Frame.encode { sequence, body }).failure = (Frame.encode { sequence := 0, body }).failure := by
  unfold encode
  dsimp only
  split
  · rfl
  · split
    · rfl
    · split <;> rfl

namespace PendingTable

theorem complete_registered {table : PendingTable} (listed : IsSequence table.next)
    (room : table.size < lastSequence.toNat) (commandId : CommandId) (now : Nat)
    (outcome : Outcome) :
    ((table.register commandId now).2.complete table.freeSequence outcome).2 = { table with
      next := following table.freeSequence
      issued := table.issued + 1
      resolved := (table.issued, outcome) :: table.resolved } := by
  obtain ⟨_, _, _, _, free⟩ := freeSequence_spec listed room
  have apart : ∀ request ∈ table.requests, (request.sequence == table.freeSequence) = false := by
    intro request member
    by_contra same
    rw [isOutstanding_iff.mpr ⟨request, member, by simpa using same⟩] at free
    cases free
  have leaving : table.requests.filter (fun request => request.sequence == table.freeSequence) = [] := by
    rw [List.filter_eq_nil_iff]
    intro request member
    rw [apart request member]
    exact Bool.false_ne_true
  have staying : table.requests.filter (fun request => !(request.sequence == table.freeSequence)) =
      table.requests := by
    rw [List.filter_eq_self]
    intro request member
    rw [apart request member]
    rfl
  simp only [complete, retire, takeOut, resolve, register, List.filter_cons, beq_self_eq_true,
    Bool.not_true, Bool.false_eq_true, if_true, if_false, leaving, staying, List.map_cons, List.map_nil,
    List.singleton_append]

end PendingTable

namespace Link

theorem sent_of_unlimited {link : Link} {body : Body} (opened : link.writer.isClosed = false)
    (unlimited : link.writer.sink.room = none) (encodable : body.IsEncodable) :
    ∃ writer, link.send body = (.ok (link.register body.commandId).1,
        { (link.register body.commandId).2 with writer }) ∧
      writer.isClosed = false ∧ writer.sink.room = none := by
  have fits := (Frame.failure_encode (link.register body.commandId).1.sequence body).trans encodable
  obtain ⟨after, written, still⟩ := Outbound.written_of_unlimited opened unlimited fits
  have stays := link.writer.isClosed_write
    { sequence := (link.register body.commandId).1.sequence, body }
  rw [written] at stays
  refine ⟨after, ?_, stays.trans opened, still⟩
  have wrote : (link.register body.commandId).2.write
      { sequence := (link.register body.commandId).1.sequence, body } =
        (.ok (), { (link.register body.commandId).2 with writer := after }) := by
    have same : (link.register body.commandId).2.writer = link.writer := rfl
    rw [← same] at written
    exact write_of_accepted written
  unfold send transmit
  dsimp only
  rw [wrote]

end Link

namespace Session

/-- A request on its way out, and what the session does meanwhile, between the registration and the write,
and afterwards, before a request that could not be written is taken back. -/
structure Sending where
  start : Session
  body : Body
  meanwhile : List Move := []
  afterwards : List Move := []

namespace Sending

def request (sending : Sending) : PendingRequest :=
  ⟨sending.start.link.pending.freeSequence, sending.body.commandId, sending.start.link.pending.issued,
    sending.start.link.now⟩

def frame (sending : Sending) : Frame :=
  { sequence := sending.request.sequence, body := sending.body }

def registered (sending : Sending) : Session :=
  { sending.start with link := (sending.start.link.register sending.body.commandId).2 }

def writing (sending : Sending) : Session := sending.registered.run sending.meanwhile

def outcome (sending : Sending) : Except SessionError Unit :=
  (sending.writing.link.write sending.frame).1

def written (sending : Sending) : Session :=
  { sending.writing with link := (sending.writing.link.write sending.frame).2 }

def withdrawing (sending : Sending) : Session := sending.written.run sending.afterwards

def withdrawn (sending : Sending) : Session :=
  { sending.withdrawing with link := sending.withdrawing.link.withdraw sending.request.handle }

def result (sending : Sending) : Except SessionError PendingHandle × Session :=
  match sending.outcome with
  | .ok () => (.ok sending.request.handle, sending.written)
  | .error error => (.error error, sending.withdrawn)

def HasNumbers (sending : Sending) : Prop :=
  sending.start.link.pending.size +
      (sending.withdrawing.link.pending.issued - sending.start.link.pending.issued) ≤
    PendingTable.lastSequence.toNat

instance (sending : Sending) : Decidable sending.HasNumbers := Nat.decLe _ _

/-- When nothing comes in between, this is how a session sends. -/
theorem result_undisturbed (start : Session) (body : Body) :
    let sending : Sending := { start, body }
    start.link.send body = (sending.result.1, sending.result.2.link) ∧
      sending.result.2 = { start with link := sending.result.2.link } := by
  intro sending
  have sent : start.link.send body = sending.registered.link.transmit sending.request.handle body := rfl
  rw [sent, Link.transmit]
  cases wrote : sending.registered.link.write sending.frame with
  | mk outcome link =>
      have came : sending.outcome = outcome := congrArg Prod.fst wrote
      have after : sending.written.link = link := congrArg Prod.snd wrote
      have frame : sending.registered.link.write { sequence := sending.request.handle.sequence, body } =
          (outcome, link) := wrote
      rw [frame]
      cases outcome with
      | ok done =>
          rw [result, came, ← after]
          exact ⟨rfl, rfl⟩
      | error error =>
          rw [result, came, ← after]
          exact ⟨rfl, rfl⟩

theorem outcome_cases (sending : Sending) :
    (∃ writer, sending.writing.link.writer.write sending.frame = (.ok (), writer) ∧
      sending.outcome = .ok () ∧
      sending.written = { sending.writing with link := { sending.writing.link with writer } }) ∨
    (∃ cause, sending.frame.encode.failure = some cause ∧ sending.outcome = .error (.encoding cause) ∧
      sending.written = sending.writing) ∨
    ∃ reason, sending.outcome = .error (.writeFailed reason) ∧
      sending.written.link.state = .disconnected ∧ sending.written.link.closeRequested = true ∧
      sending.written.link.closeReason =
        sending.writing.link.closeReason.or (some .connectionLost) := by
  unfold outcome written
  rcases sending.writing.link.write_cases sending.frame with
    ⟨writer, wrote, same⟩ | ⟨cause, failed, same⟩ | ⟨reason, writer, _, same⟩
  · rw [same]
    exact Or.inl ⟨writer, wrote, rfl, rfl⟩
  · rw [same]
    exact Or.inr (Or.inl ⟨cause, failed, rfl, rfl⟩)
  · rw [same]
    exact Or.inr (Or.inr ⟨reason, rfl, rfl, rfl, rfl⟩)

section

variable {sending : Sending}

theorem pending_written (sending : Sending) :
    sending.written.link.pending = sending.writing.link.pending :=
  sending.writing.link.pending_write sending.frame

theorem evolves_withdrawing (sending : Sending) :
    sending.registered.link.pending.Evolves (fun _ => True) sending.withdrawing.link.pending := by
  have earlier := sending.registered.evolves_run sending.meanwhile
  have later := sending.written.evolves_run sending.afterwards
  rw [sending.pending_written] at later
  exact earlier.trans later

theorem ticketed_registered (ticketed : sending.start.link.pending.Ticketed) :
    sending.registered.link.pending.Ticketed :=
  ticketed.register _ _

theorem ticketed_withdrawing (ticketed : sending.start.link.pending.Ticketed) :
    sending.withdrawing.link.pending.Ticketed :=
  (ticketed_registered ticketed).evolves sending.evolves_withdrawing

end

/-- The request has its entry, under a number that nobody has, and whatever the session does from then on,
the first response under that number is its answer, unless it is lost before. -/
structure IsRegistered (sending : Sending) : Prop where
  rest : sending.registered =
    { sending.start with link := { sending.start.link with pending := sending.registered.link.pending } }
  waits : sending.request ∈ sending.registered.link.pending.requests
  others : sending.start.link.pending.AltersOnly sending.registered.link.pending sending.request.ticket
  free : sending.start.link.pending.size < PendingTable.lastSequence.toNat →
    sending.start.link.pending.isOutstanding sending.request.sequence = false
  fate : ∀ moves, sending.registered.Fate sending.request moves

/-- The transport has the one frame behind all that it had before. The request still waits for the response
to it, or it has been settled before. -/
structure GoesOut (sending : Sending) : Prop where
  encodable : sending.frame.encode.failure = none
  accepted : sending.written.link.writer.sink.accepted =
    sending.writing.link.writer.sink.accepted ++ sending.frame.encode.octets
  rest : sending.written =
    { sending.writing with link := { sending.writing.link with writer := sending.written.link.writer } }
  awaited : sending.request ∈ sending.written.link.pending.requests ∧
      (∀ moves, sending.written.Fate sending.request moves) ∨
    ∃ outcome, ∀ moves,
      (sending.written.run moves).link.pending.outcome? sending.request.handle = some outcome

structure TakesBack (sending : Sending) (error : SessionError) : Prop where
  gone : ∀ request ∈ sending.withdrawn.link.pending.requests, request.ticket ≠ sending.request.ticket
  free : sending.withdrawn.link.pending.isOutstanding sending.request.sequence = false
  pending : sending.written.link.pending = sending.writing.link.pending
  rest : sending.withdrawn = { sending.withdrawing with
    link := { sending.withdrawing.link with pending := sending.withdrawn.link.pending } }
  others : sending.HasNumbers →
    sending.withdrawing.link.pending.AltersOnly sending.withdrawn.link.pending sending.request.ticket
  numbers : sending.withdrawn.link.pending.next = sending.withdrawing.link.pending.next
  cause : (∃ cause, error = .encoding cause) ∨ ∃ reason, error = .writeFailed reason
  encoding : ∀ cause, error = .encoding cause → sending.frame.encode.failure = some cause ∧
    sending.written = sending.writing ∧
    (sending.withdrawing.link.writer.isClosed = false → sending.withdrawing.link.writer.sink.room = none →
      ∀ body : Body, body.IsEncodable →
        ∃ handle after, sending.withdrawn.link.send body = (.ok handle, after))
  transport : ∀ reason, error = .writeFailed reason → sending.written.link.state = .disconnected ∧
    sending.written.link.closeRequested = true ∧
    sending.written.link.closeReason = sending.writing.link.closeReason.or (some .connectionLost)

section

variable {sending : Sending}

theorem registers (ticketed : sending.start.link.pending.Ticketed)
    (listed : PendingTable.IsSequence sending.start.link.pending.next) : sending.IsRegistered where
  rest := rfl
  waits := List.mem_cons_self
  others := PendingTable.altersOnly_register _ _ _
  free := by
    intro room
    obtain ⟨_, _, _, _, free⟩ := PendingTable.freeSequence_spec listed room
    exact free
  fate := by
    intro moves
    exact fate_of_waiting moves (ticketed_registered ticketed) List.mem_cons_self

theorem goesOut (sound : sending.writing.link.writer.IsSettled)
    (ticketed : sending.start.link.pending.Ticketed) (done : sending.outcome = .ok ()) :
    sending.GoesOut := by
  have pending := sending.pending_written
  have waits : sending.request ∈ sending.registered.link.pending.requests := List.mem_cons_self
  have stands := (sending.registered.evolves_run sending.meanwhile).waits_or_resolved
    (ticketed_registered ticketed) waits
  have counts : sending.written.link.pending.Ticketed := by
    rw [pending]
    exact (ticketed_registered ticketed).evolves (sending.registered.evolves_run _)
  have awaited : sending.request ∈ sending.written.link.pending.requests ∧
        (∀ moves, sending.written.Fate sending.request moves) ∨
      ∃ outcome, ∀ moves,
        (sending.written.run moves).link.pending.outcome? sending.request.handle = some outcome := by
    rcases stands with waits | ⟨outcome, _, resolved⟩
    · have still : sending.request ∈ sending.written.link.pending.requests := by
        rw [pending]
        exact waits
      exact Or.inl ⟨still, fun moves => fate_of_waiting moves counts still⟩
    · have settled : sending.written.link.pending.outcome? sending.request.handle = some outcome := by
        rw [pending]
        exact resolved
      exact Or.inr ⟨outcome, outcome?_run counts settled⟩
  rcases sending.outcome_cases with ⟨writer, wrote, _, same⟩ | ⟨cause, _, came, _⟩ | ⟨reason, came, _⟩
  · refine ⟨(Outbound.received_write wrote).1, ?_, ?_, awaited⟩
    · rw [same]
      exact sound.accepted_of_written wrote
    · rw [same]
  · cases came.symm.trans done
  · cases came.symm.trans done

theorem takesBack (ticketed : sending.start.link.pending.Ticketed)
    (listed : PendingTable.IsSequence sending.start.link.pending.next) {error : SessionError}
    (failed : sending.outcome = .error error) : sending.TakesBack error := by
  have counts := ticketed_withdrawing ticketed
  have mem : ∀ request, request ∈ sending.withdrawn.link.pending.requests ↔
      request ∈ sending.withdrawing.link.pending.requests ∧ request.sequence ≠ sending.request.sequence :=
    fun _ => PendingTable.mem_complete
  constructor
  · intro request member same
    obtain ⟨still, apart⟩ := (mem request).mp member
    apply apart
    rw [ticketed.eq_registered sending.evolves_withdrawing still same]
    rfl
  · rw [← Bool.not_eq_true, PendingTable.isOutstanding_iff]
    rintro ⟨request, member, same⟩
    exact ((mem request).mp member).2 same
  · exact sending.pending_written
  · rfl
  · intro numbers
    have own := PendingTable.ticket_of_registered ticketed listed sending.evolves_withdrawing numbers
    exact counts.altersOnly_complete own _
  · rfl
  · rcases sending.outcome_cases with ⟨_, _, came, _⟩ | ⟨cause, _, came, _⟩ | ⟨reason, came, _⟩
    · cases came.symm.trans failed
    · cases came.symm.trans failed
      exact Or.inl ⟨cause, rfl⟩
    · cases came.symm.trans failed
      exact Or.inr ⟨reason, rfl⟩
  · rintro cause rfl
    rcases sending.outcome_cases with ⟨_, _, came, _⟩ | ⟨found, refused, came, same⟩ | ⟨reason, came, _⟩
    · cases came.symm.trans failed
    · cases came.symm.trans failed
      refine ⟨refused, same, fun opened unlimited body encodable => ?_⟩
      obtain ⟨writer, sent, _⟩ : ∃ writer, sending.withdrawn.link.send body = _ ∧ _ :=
        Link.sent_of_unlimited opened unlimited encodable
      exact ⟨_, _, sent⟩
    · cases came.symm.trans failed
  · rintro reason rfl
    rcases sending.outcome_cases with ⟨_, _, came, _⟩ | ⟨cause, _, came, _⟩ | ⟨found, _, signals⟩
    · cases came.symm.trans failed
    · cases came.symm.trans failed
    · exact signals

end

end Sending

structure SendsWhole (session : Session) (body : Body) : Prop where
  sends : session.link.send body = ((Sending.mk session body [] []).result.1,
    (Sending.mk session body [] []).result.2.link)
  pending : session.link.pending.size < PendingTable.lastSequence.toNat → ∀ error after,
    session.link.send body = (.error error, after) → after.pending = { session.link.pending with
      next := PendingTable.following session.link.pending.freeSequence
      issued := session.link.pending.issued + 1
      resolved := (session.link.pending.issued, .error .connectionLost) :: session.link.pending.resolved }
  encoding : ∀ cause after, session.link.send body = (.error (.encoding cause), after) →
    after = { session.link with pending := after.pending }

theorem sendsWhole {session : Session} (listed : PendingTable.IsSequence session.link.pending.next)
    (body : Body) : session.SendsWhole body := by
  have sends := (Sending.result_undisturbed session body).1
  constructor
  · exact sends
  · intro room error after failed
    rcases session.link.send_cases body with ⟨writer, _, same⟩ | ⟨found, link, same, pending⟩
    · rw [same] at failed
      cases failed
    · rw [same] at failed
      cases failed
      rw [pending]
      exact PendingTable.complete_registered listed room _ _ _
  · intro cause after failed
    rw [sends] at failed
    rcases (Sending.mk session body [] []).outcome_cases with
      ⟨_, _, came, _⟩ | ⟨found, _, came, same⟩ | ⟨reason, came, _⟩
    · rw [Sending.result, came] at failed
      cases failed
    · rw [Sending.result, came] at failed
      cases failed
      rw [Sending.withdrawn, Sending.withdrawing, run_nil, same]
      rfl
    · rw [Sending.result, came] at failed
      cases failed

/-- A request that any session sends is registered before it is written. If its frame goes out, its number
is in it, and if it does not, nothing is left of the request, whatever others do meanwhile. -/
theorem sent_or_taken_back (config : SessionConfig) (handlers : HandlerTable) (sink : Sink)
    (before : List Move) (body : Body) (meanwhile afterwards : List Move) :
    let session := (starting config handlers sink).run before
    let sending : Sending := ⟨session, body, meanwhile, afterwards⟩
    sending.IsRegistered ∧
    (∀ handle, sending.result.1 = .ok handle → handle = sending.request.handle ∧ sending.GoesOut) ∧
    (∀ error, sending.result.1 = .error error → sending.TakesBack error) ∧
    session.SendsWhole body := by
  intro session sending
  have sound : session.IsSound config := (sound_starting config handlers sink).run before
  have ticketed : session.link.pending.Ticketed :=
    PendingTable.ticketed_new.evolves ((starting config handlers sink).evolves_run before)
  have registered : sending.registered.IsSound config :=
    ⟨sound.config, sound.settled, PendingTable.isSequence_following _⟩
  refine ⟨Sending.registers ticketed sound.next, ?_, ?_, sendsWhole sound.next body⟩
  · intro handle sent
    cases came : sending.outcome with
    | ok done =>
        rw [Sending.result, came] at sent
        cases sent
        exact ⟨rfl, Sending.goesOut (registered.run meanwhile).settled ticketed came⟩
    | error error =>
        rw [Sending.result, came] at sent
        cases sent
  · intro error failed
    cases came : sending.outcome with
    | ok done =>
        rw [Sending.result, came] at failed
        cases failed
    | error found =>
        rw [Sending.result, came] at failed
        cases failed
        exact Sending.takesBack ticketed sound.next came

/-- The answer to a request is there before its frame, which then turns out to have no encoding. Another
request goes out before it is taken back. -/
theorem sent_or_taken_back_sample :
    let session := (starting {} .standard {}).run readyMoves
    let refused : Sending := ⟨session, .bindTransceiver { systemId := "" },
      [.hear (.frame ⟨.ok, 2, .genericNack⟩)], [.start .enquireLink]⟩
    refused.TakesBack (.encoding (.missingField "system_id")) ∧
      refused.withdrawing.link.pending.AltersOnly refused.withdrawn.link.pending 1 ∧
      (Sending.mk session .enquireLink [.sweep] []).GoesOut := by
  intro session refused
  have failed : refused.result.1 = .error (.encoding (.missingField "system_id")) := by decide +kernel
  have sent : (Sending.mk session .enquireLink [.sweep] []).result.1 = .ok ⟨2, .enquireLink, 1⟩ := by
    decide +kernel
  have numbers : refused.HasNumbers := by decide +kernel
  obtain ⟨_, _, takesBack, _⟩ := sent_or_taken_back {} .standard {} readyMoves
    (.bindTransceiver { systemId := "" }) [.hear (.frame ⟨.ok, 2, .genericNack⟩)] [.start .enquireLink]
  obtain ⟨_, goesOut, _, _⟩ := sent_or_taken_back {} .standard {} readyMoves .enquireLink [.sweep] []
  exact ⟨takesBack _ failed, (takesBack _ failed).others numbers, (goesOut _ sent).2⟩

end Session

end Smpp
