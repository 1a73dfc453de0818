import Smpp.Proofs.Session.Acts
import Smpp.Proofs.Session.Answers
import Smpp.Proofs.Session.Retirement

/-!
Responses find their requests. The listener gives a response to the request with its number and to no
other, and a response to nobody changes nothing. In a whole run, whatever else happens, a request that
gets a response gets the first one with its number.
-/

namespace Smpp

/-- What a frame with this command is given to: a handler that is registered for the command, or the
fallback if there is none. -/
inductive HandlerTable.Routes (table : HandlerTable) (id : CommandId) : Handler → Prop
  | registered {handler : Handler} (listed : (id, handler) ∈ table.handlers) : Routes table id handler
  | fallback (unlisted : ∀ handler, (id, handler) ∉ table.handlers) : Routes table id table.fallback

theorem HandlerTable.routes_handlerFor (table : HandlerTable) (id : CommandId) :
    table.Routes id (table.handlerFor id) := by
  unfold handlerFor
  cases found : table.handlers.lookup id with
  | some handler =>
      obtain ⟨before, after, same, _⟩ := List.lookup_eq_some_iff.mp found
      refine .registered ?_
      rw [same]
      exact List.mem_append_right _ List.mem_cons_self
  | none =>
      refine .fallback fun handler listed => ?_
      have apart := List.lookup_eq_none_iff.mp found (id, handler) listed
      rw [bne_self_eq_false] at apart
      cases apart

def Outcome.IsLoss (outcome : Outcome) : Prop := outcome = .error .timeout ∨ outcome = .error .connectionLost

/-- The number of a response and what it is to the request with that number. -/
def Inbound.Event.response? : Inbound.Event → Option (UInt32 × Outcome)
  | .frame found => if found.isResponse then some (found.sequence, .ok found) else none
  | .malformed header error =>
      if header.commandId.isResponse then some (header.sequence, .error (.decoding error)) else none
  | .desync _ | .closed | .cutOff _ => none

theorem Inbound.Event.response?_cases {event : Inbound.Event} {sequence : UInt32} {outcome : Outcome}
    (response : event.response? = some (sequence, outcome)) :
    (∃ frame, event = .frame frame ∧ frame.isResponse = true ∧ sequence = frame.sequence ∧
      outcome = .ok frame) ∨
    ∃ header error, event = .malformed header error ∧ header.commandId.isResponse = true ∧
      sequence = header.sequence ∧ outcome = .error (.decoding error) := by
  unfold Inbound.Event.response? at response
  split at response
  · rename_i frame
    split at response
    · rename_i isResponse
      cases response
      exact Or.inl ⟨frame, rfl, isResponse, rfl, rfl⟩
    · cases response
  · rename_i header error
    split at response
    · rename_i isResponse
      cases response
      exact Or.inr ⟨header, error, rfl, isResponse, rfl, rfl⟩
    · cases response
  · cases response
  · cases response
  · cases response

theorem Inbound.Event.eq_frame_iff {event : Inbound.Event} {sequence : UInt32} {outcome : Outcome}
    (response : event.response? = some (sequence, outcome)) (frame : Frame) :
    outcome = .ok frame ↔ event = .frame frame := by
  rcases Inbound.Event.response?_cases response with ⟨found, rfl, _, _, rfl⟩ | ⟨_, _, rfl, _, _, rfl⟩
  · rw [Except.ok.injEq, Inbound.Event.frame.injEq]
  · exact ⟨nofun, nofun⟩

theorem Inbound.Event.frame_of_ok {event : Inbound.Event} {sequence : UInt32} {frame : Frame}
    (response : event.response? = some (sequence, .ok frame)) :
    event = .frame frame ∧ frame.sequence = sequence := by
  obtain rfl := (Inbound.Event.eq_frame_iff response frame).mp rfl
  rcases Inbound.Event.response?_cases response with ⟨found, same, _, number, _⟩ | ⟨_, _, impossible, _⟩
  · cases same
    exact ⟨rfl, number.symm⟩
  · cases impossible

namespace Link

structure Spares (before after : Link) : Prop where
  pending : before.pending.Evolves Outcome.IsLoss after.pending
  handlers : after.handlers = before.handlers
  dispatched : after.dispatched = before.dispatched

theorem Spares.refl (link : Link) : link.Spares link := ⟨.refl, rfl, rfl⟩

theorem Spares.trans {first second third : Link} (before : first.Spares second) (after : second.Spares third) :
    first.Spares third :=
  ⟨before.pending.trans after.pending, after.handlers.trans before.handlers,
    after.dispatched.trans before.dispatched⟩

theorem spares_write (link : Link) (frame : Frame) : link.Spares (link.write frame).2 := by
  rcases link.write_cases frame with ⟨writer, _, same⟩ | ⟨error, _, same⟩ | ⟨reason, writer, _, same⟩
  · rw [same]
    exact ⟨.refl, rfl, rfl⟩
  · rw [same]
    exact .refl link
  · rw [same]
    exact ⟨.refl, rfl, rfl⟩

theorem spares_giveUp (link : Link) (handle : PendingHandle) : link.Spares (link.giveUp handle).2 := by
  have evolves : link.pending.Evolves Outcome.IsLoss (link.pending.giveUp handle).2 := by
    unfold PendingTable.giveUp
    split
    · exact .refl
    · exact .retire .refl _ (Or.inl rfl)
  exact ⟨evolves, rfl, rfl⟩

theorem spares_perform (link : Link) (act : Act) : link.Spares (link.perform act) := by
  cases act with
  | write frame => exact link.spares_write frame
  | register commandId => exact ⟨.register .refl commandId link.now, rfl, rfl⟩
  | withdraw handle => exact ⟨.retire .refl _ (Or.inr rfl), rfl, rfl⟩
  | giveUp handle => exact link.spares_giveUp handle
  | failAll => exact ⟨.retire .refl _ (Or.inr rfl), rfl, rfl⟩
  | sweep => exact ⟨.retire .refl _ (Or.inl rfl), rfl, rfl⟩
  | setState state => exact ⟨.refl, rfl, rfl⟩
  | requestClose reason => exact ⟨.refl, rfl, rfl⟩
  | closeTransport => exact ⟨.refl, rfl, rfl⟩
  | wait time => exact ⟨.refl, rfl, rfl⟩

theorem Reaches.spares {before after : Link} (reaches : before.Reaches True after) : before.Spares after := by
  induction reaches with
  | refl => exact .refl before
  | act _ act _ ih => exact ih.trans (spares_perform _ act)

end Link

namespace Listener

variable {link : Link} {event : Inbound.Event} {sequence : UInt32} {outcome : Outcome}

theorem spares_finish (link : Link) (outcome : Except SessionError Unit) :
    link.Spares (finish link outcome).1 := link.reaches_tearDown.spares

theorem spares_stop (link : Link) : link.Spares (stop link).1 := by
  unfold stop
  split
  · have taken : link.Spares link.takeClose.2 := ⟨.refl, rfl, rfl⟩
    exact taken.trans (spares_finish _ _)
  · exact .refl link

theorem hear_of_free (response : event.response? = some (sequence, outcome))
    (free : link.pending.isOutstanding sequence = false) : hear link event = (link, .reading) := by
  have vacant : ∀ request ∈ link.pending.requests, request.sequence ≠ sequence := by
    intro request member same
    rw [PendingTable.isOutstanding_iff.mpr ⟨request, member, same⟩] at free
    cases free
  have unmatched : link.complete sequence outcome = (false, link) := by
    rw [Link.complete, PendingTable.complete_of_free vacant]
  rcases Inbound.Event.response?_cases response with
    ⟨frame, rfl, isResponse, rfl, rfl⟩ | ⟨header, error, rfl, isResponse, rfl, rfl⟩
  · rw [hear, onFrame, if_pos isResponse, unmatched]
    rfl
  · rw [hear, onMalformed, if_pos isResponse, unmatched]

theorem hear_response {frame : Frame} (isResponse : frame.isResponse = true)
    (outstanding : link.pending.isOutstanding frame.sequence = true) :
    hear link (.frame frame) =
      ({ link with
          pending := (link.pending.complete frame.sequence (.ok frame)).2
          dispatched := link.dispatched ++ [(link.handlers.handlerFor frame.commandId, frame)] },
        .handling (link.handlers.handlerFor frame.commandId) frame) := by
  have matched : (link.pending.complete frame.sequence (.ok frame)).1 = true :=
    PendingTable.complete_eq_true_iff.mpr (PendingTable.isOutstanding_iff.mp outstanding)
  have completed : link.complete frame.sequence (.ok frame) =
      (true, { link with pending := (link.pending.complete frame.sequence (.ok frame)).2 }) :=
    Prod.ext matched rfl
  rw [hear, onFrame, if_pos isResponse, completed]
  rfl

theorem hear_malformed {header : Header} {error : CodecError} (isResponse : header.commandId.isResponse = true) :
    hear link (.malformed header error) =
      ({ link with pending := (link.pending.complete header.sequence (.error (.decoding error))).2 },
        .reading) := by
  rw [hear, onMalformed, if_pos isResponse]
  rfl

theorem pending_hear (response : event.response? = some (sequence, outcome)) :
    (hear link event).1.pending = (link.pending.complete sequence outcome).2 := by
  rcases Inbound.Event.response?_cases response with
    ⟨frame, rfl, isResponse, rfl, rfl⟩ | ⟨header, error, rfl, isResponse, rfl, rfl⟩
  · rw [hear, onFrame, if_pos isResponse]
    dsimp only
    split <;> rfl
  · rw [hear_malformed isResponse]

def handed (link : Link) : Inbound.Event → List Frame
  | .frame frame => if frame.isResponse && !link.pending.isOutstanding frame.sequence then [] else [frame]
  | .malformed .. | .desync _ | .closed | .cutOff _ => []

def handings (handlers : HandlerTable) (frames : List Frame) : List (Handler × Frame) :=
  frames.map fun frame => (handlers.handlerFor frame.commandId, frame)

theorem hear_other (other : event.response? = none) :
    link.pending.Evolves Outcome.IsLoss (hear link event).1.pending ∧
      (hear link event).1.handlers = link.handlers ∧
      (hear link event).1.dispatched = link.dispatched ++ handings link.handlers (handed link event) := by
  have ended : ∀ {after : Link}, link.Spares after → handed link event = [] →
      link.pending.Evolves Outcome.IsLoss after.pending ∧ after.handlers = link.handlers ∧
        after.dispatched = link.dispatched ++ handings link.handlers (handed link event) := by
    intro after spares none
    rw [none, handings, List.map_nil, List.append_nil]
    exact ⟨spares.pending, spares.handlers, spares.dispatched⟩
  cases event with
  | frame frame =>
      have request : frame.isResponse = false := by
        simpa [Inbound.Event.response?] using other
      rw [hear, onFrame, request, handed, request]
      exact ⟨.refl, rfl, rfl⟩
  | malformed header error =>
      have request : header.commandId.isResponse = false := by
        simpa [Inbound.Event.response?] using other
      rw [hear, onMalformed, request]
      exact ended (reaches_reply link _).spares rfl
  | desync error => exact ended (spares_finish link _) rfl
  | closed => exact ended (spares_finish link _) rfl
  | cutOff octets => exact ended (spares_finish link _) rfl

theorem dispatched_hear (link : Link) (event : Inbound.Event) :
    (hear link event).1.handlers = link.handlers ∧
      (hear link event).1.dispatched = link.dispatched ++ handings link.handlers (handed link event) := by
  cases response : event.response? with
  | none => exact (hear_other response).2
  | some found =>
      rcases Inbound.Event.response?_cases response with
        ⟨frame, rfl, isResponse, sequence, _⟩ | ⟨header, error, rfl, isResponse, _, _⟩
      · cases outstanding : link.pending.isOutstanding frame.sequence with
        | true =>
            rw [hear_response isResponse outstanding, handed, isResponse, outstanding]
            exact ⟨rfl, rfl⟩
        | false =>
            rw [← sequence] at outstanding
            rw [hear_of_free response outstanding, handed, ← sequence, isResponse, outstanding]
            exact ⟨rfl, (List.append_nil _).symm⟩
      · rw [hear_malformed isResponse]
        exact ⟨rfl, (List.append_nil _).symm⟩

end Listener

namespace Session

variable {session : Session} {move : Move}

theorem takenUp_cases (session : Session) (move : Move) :
    session.takenUp move = [] ∨
      ∃ event, session.takenUp move = [event] ∧ session.listener = .reading ∧ move = .hear event := by
  unfold takenUp
  split
  · rename_i event reading
    exact Or.inr ⟨event, rfl, reading, rfl⟩
  · exact Or.inl rfl

theorem move_hear (reading : session.listener = .reading) (event : Inbound.Event) :
    session.move (.hear event) = session.withListener (Listener.hear session.link event) := by
  simp only [Session.move, reading]

theorem spares_of_idle (idle : session.takenUp move = []) :
    session.link.Spares (session.move move).link := by
  cases move with
  | hear event =>
      simp only [Session.move]
      split
      · rename_i reading
        simp only [takenUp, reading, List.cons_ne_nil] at idle
      · exact .refl _
  | stop =>
      simp only [Session.move]
      split
      · exact Listener.spares_stop _
      · exact .refl _
  | _ => exact (session.reaches_move (by simp) (by simp)).spares

def handed (session : Session) (move : Move) : List Frame :=
  (session.takenUp move).flatMap (Listener.handed session.link)

theorem dispatched_move (session : Session) (move : Move) :
    (session.move move).link.handlers = session.link.handlers ∧
      (session.move move).link.dispatched =
        session.link.dispatched ++ Listener.handings session.link.handlers (session.handed move) := by
  rcases session.takenUp_cases move with idle | ⟨event, taken, reading, rfl⟩
  · have spares := spares_of_idle idle
    rw [handed, idle, List.flatMap_nil, Listener.handings, List.map_nil, List.append_nil]
    exact ⟨spares.handlers, spares.dispatched⟩
  · rw [handed, taken, List.flatMap_singleton, move_hear reading]
    exact Listener.dispatched_hear session.link event

theorem dispatched_run (session : Session) (moves : List Move) :
    (session.run moves).link.handlers = session.link.handlers ∧
      (session.run moves).link.dispatched =
        session.link.dispatched ++ Listener.handings session.link.handlers (session.collect handed moves) := by
  induction moves generalizing session with
  | nil => exact ⟨rfl, (List.append_nil _).symm⟩
  | cons move moves ih =>
      obtain ⟨handlers, dispatched⟩ := session.dispatched_move move
      obtain ⟨later, rest⟩ := ih (session.move move)
      rw [run_cons]
      refine ⟨later.trans handlers, ?_⟩
      rw [rest, dispatched, handlers, collect, Listener.handings, Listener.handings, Listener.handings,
        List.map_append, List.append_assoc]

theorem pending_move (session : Session) (move : Move) :
    (∃ event sequence outcome, session.listener = .reading ∧ move = .hear event ∧
      event.response? = some (sequence, outcome) ∧
      (session.move move).link.pending = (session.link.pending.complete sequence outcome).2) ∨
    ((∀ event ∈ session.takenUp move, event.response? = none) ∧
      session.link.pending.Evolves Outcome.IsLoss (session.move move).link.pending) := by
  rcases session.takenUp_cases move with idle | ⟨event, taken, reading, rfl⟩
  · refine Or.inr ⟨?_, (spares_of_idle idle).pending⟩
    rw [idle]
    intro event member
    cases member
  · cases response : event.response? with
    | some found =>
        refine Or.inl ⟨event, found.1, found.2, reading, rfl, response, ?_⟩
        rw [move_hear reading]
        exact Listener.pending_hear response
    | none =>
        refine Or.inr ⟨?_, ?_⟩
        · rw [taken]
          intro other member
          rw [List.mem_singleton.mp member, response]
        · rw [move_hear reading]
          exact (Listener.hear_other response).1

theorem evolves_move (session : Session) (move : Move) :
    session.link.pending.Evolves (fun _ => True) (session.move move).link.pending := by
  rcases session.pending_move move with
    ⟨_, sequence, outcome, _, _, _, same⟩ | ⟨_, evolves⟩
  · rw [same]
    exact .retire .refl _ trivial
  · exact evolves.mono fun _ _ => trivial

theorem evolves_run (session : Session) (moves : List Move) :
    session.link.pending.Evolves (fun _ => True) (session.run moves).link.pending := by
  induction moves generalizing session with
  | nil => exact .refl
  | cons move moves ih => exact (session.evolves_move move).trans (ih _)

def Unanswered (session : Session) (moves : List Move) (sequence : UInt32) : Prop :=
  ∀ event ∈ session.heard moves, ∀ outcome, event.response? ≠ some (sequence, outcome)

/-- What becomes of a request that waits: it goes on waiting without a response, it gets the first
response that there is, or it is lost before there is one. -/
inductive Fate (session : Session) (request : PendingRequest) : List Move → Prop
  | waiting {moves : List Move} (unanswered : session.Unanswered moves request.sequence)
      (waits : request ∈ (session.run moves).link.pending.requests) : Fate session request moves
  | answered {earlier later : List Move} {event : Inbound.Event} {outcome : Outcome}
      (unanswered : session.Unanswered earlier request.sequence)
      (reading : (session.run earlier).listener = .reading)
      (response : event.response? = some (request.sequence, outcome))
      (resolved : ∀ later, (session.run (earlier ++ .hear event :: later)).link.pending.outcome?
        request.handle = some outcome) : Fate session request (earlier ++ .hear event :: later)
  | lost {earlier later : List Move} {outcome : Outcome}
      (unanswered : session.Unanswered earlier request.sequence) (loss : outcome.IsLoss)
      (resolved : ∀ later, (session.run (earlier ++ later)).link.pending.outcome? request.handle =
        some outcome) : Fate session request (earlier ++ later)

theorem unanswered_cons {move : Move} {moves : List Move} {sequence : UInt32}
    (first : ∀ event ∈ session.takenUp move, ∀ outcome, event.response? ≠ some (sequence, outcome))
    (others : (session.move move).Unanswered moves sequence) :
    session.Unanswered (move :: moves) sequence := by
  intro event member
  rcases List.mem_append.mp member with now | later
  · exact first event now
  · exact others event later

theorem Fate.cons {request : PendingRequest} {moves : List Move}
    (first : ∀ event ∈ session.takenUp move, ∀ outcome,
      event.response? ≠ some (request.sequence, outcome))
    (fate : (session.move move).Fate request moves) : session.Fate request (move :: moves) := by
  cases fate with
  | waiting unanswered waits => exact .waiting (unanswered_cons first unanswered) waits
  | answered unanswered reading response resolved =>
      rw [← List.cons_append]
      exact .answered (unanswered_cons first unanswered) reading response resolved
  | lost unanswered loss resolved =>
      rw [← List.cons_append]
      exact .lost (unanswered_cons first unanswered) loss resolved

theorem outcome?_run (ticketed : session.link.pending.Ticketed) {handle : PendingHandle} {outcome : Outcome}
    (resolved : session.link.pending.outcome? handle = some outcome) (moves : List Move) :
    (session.run moves).link.pending.outcome? handle = some outcome :=
  (session.evolves_run moves).outcome?_eq ticketed resolved

theorem unanswered_nil (session : Session) (sequence : UInt32) : session.Unanswered [] sequence := by
  intro event member
  cases member

theorem fate_of_waiting {request : PendingRequest} (moves : List Move)
    (ticketed : session.link.pending.Ticketed) (waits : request ∈ session.link.pending.requests) :
    session.Fate request moves := by
  induction moves generalizing session with
  | nil => exact .waiting (session.unanswered_nil request.sequence) waits
  | cons move moves ih =>
      have after := ticketed.evolves (session.evolves_move move)
      rcases session.pending_move move with
        ⟨event, sequence, outcome, reading, rfl, response, same⟩ | ⟨other, evolves⟩
      · have settles := ticketed.settles_complete sequence outcome
        rw [← same] at settles
        by_cases own : request.sequence = sequence
        · rw [← own] at response
          have answered : session.Fate request ([] ++ .hear event :: moves) :=
            .answered (session.unanswered_nil _) reading response
              (outcome?_run after (settles.resolved request waits own).2)
          exact answered
        · refine (ih after ((settles.remaining request).mpr ⟨waits, own⟩)).cons ?_
          intro taken member found answer
          simp only [takenUp, reading, List.mem_singleton] at member
          rw [member, response] at answer
          cases answer
          exact own rfl
      · have first : ∀ event ∈ session.takenUp move, ∀ outcome,
            event.response? ≠ some (request.sequence, outcome) := by
          intro event member outcome response
          cases (other event member).symm.trans response
        rcases evolves.waits_or_resolved ticketed waits with waits | ⟨outcome, loss, resolved⟩
        · exact (ih after waits).cons first
        · have lost : session.Fate request ([move] ++ moves) :=
            .lost (unanswered_cons first (unanswered_nil _ _)) loss (outcome?_run after resolved)
          exact lost

theorem heard_of_resolved {request : PendingRequest} {moves : List Move} {frame : Frame}
    (ticketed : session.link.pending.Ticketed) (waits : request ∈ session.link.pending.requests)
    (resolved : (session.run moves).link.pending.outcome? request.handle = some (.ok frame)) :
    ∃ earlier later, moves = earlier ++ .hear (.frame frame) :: later ∧
      session.Unanswered earlier request.sequence ∧ (session.run earlier).listener = .reading ∧
      frame.sequence = request.sequence := by
  cases fate_of_waiting moves ticketed waits with
  | waiting _ stays =>
      rw [(ticketed.evolves (session.evolves_run moves)).waiting stays] at resolved
      cases resolved
  | @answered earlier later event outcome unanswered reading response settled =>
      rw [settled later] at resolved
      cases resolved
      obtain ⟨rfl, number⟩ := Inbound.Event.frame_of_ok response
      exact ⟨earlier, later, rfl, unanswered, reading, number⟩
  | @lost earlier later outcome _ loss settled =>
      rw [settled later] at resolved
      cases resolved
      rcases loss with impossible | impossible
      · cases impossible
      · cases impossible

theorem heard_while_waiting {request : PendingRequest} {moves : List Move} {frame : Frame}
    (ticketed : session.link.pending.Ticketed) (waits : request ∈ session.link.pending.requests)
    (resolved : (session.run moves).link.pending.outcome? request.handle = some (.ok frame)) :
    ∃ earlier later, moves = earlier ++ .hear (.frame frame) :: later ∧
      (session.run earlier).listener = .reading ∧
      request ∈ (session.run earlier).link.pending.requests ∧ frame.sequence = request.sequence := by
  induction moves generalizing session with
  | nil =>
      rw [run_nil, ticketed.waiting waits] at resolved
      cases resolved
  | cons move moves ih =>
      have after := ticketed.evolves (session.evolves_move move)
      -- What the request resolves to in this move, it has resolved to in the end.
      have settled : ∀ outcome, (session.move move).link.pending.outcome? request.handle = some outcome →
          outcome = .ok frame := by
        intro outcome now
        have last := outcome?_run after now moves
        rw [run_cons] at resolved
        exact Option.some.inj (last.symm.trans resolved)
      have goesOn : request ∈ (session.move move).link.pending.requests →
          ∃ earlier later, move :: moves = earlier ++ .hear (.frame frame) :: later ∧
            (session.run earlier).listener = .reading ∧
            request ∈ (session.run earlier).link.pending.requests ∧ frame.sequence = request.sequence := by
        intro still
        obtain ⟨earlier, later, rfl, heard⟩ := ih after still resolved
        exact ⟨move :: earlier, later, rfl, heard⟩
      rcases session.pending_move move with
        ⟨event, sequence, outcome, reading, rfl, response, same⟩ | ⟨_, evolves⟩
      · have settles := ticketed.settles_complete sequence outcome
        rw [← same] at settles
        by_cases own : request.sequence = sequence
        · have answer := settled outcome (settles.resolved request waits own).2
          subst answer
          obtain ⟨rfl, number⟩ := Inbound.Event.frame_of_ok response
          exact ⟨[], moves, rfl, reading, waits, number.trans own.symm⟩
        · exact goesOn ((settles.remaining request).mpr ⟨waits, own⟩)
      · rcases evolves.waits_or_resolved ticketed waits with still | ⟨outcome, loss, lost⟩
        · exact goesOn still
        · have impossible := settled outcome lost
          rcases loss with rfl | rfl
          · cases impossible
          · cases impossible

end Session

/-- A response that is handed over. When its request has left the table, others go on before the sender of
the request gets to see the response. -/
structure Handover where
  start : Session
  sequence : UInt32
  outcome : Outcome
  meanwhile : List Session.Move

namespace Handover

def takeOut (handover : Handover) : List PendingRequest × PendingTable :=
  handover.start.link.pending.takeOut fun request => request.sequence == handover.sequence

def taken (handover : Handover) : Session :=
  { handover.start with link := { handover.start.link with pending := handover.takeOut.2 } }

def waited (handover : Handover) : Session := handover.taken.run handover.meanwhile

def arrived (handover : Handover) : Session :=
  { handover.waited with link := { handover.waited.link with
      pending := handover.waited.link.pending.resolve handover.takeOut.1 handover.outcome } }

/-- Whatever the others have done, the response is what the request under its number comes to, for good, and
no other request has to do with it. With nobody in between the response has been handed over at once. -/
structure Arrives (handover : Handover) : Prop where
  unseen : ∀ request ∈ handover.start.link.pending.requests, request.sequence = handover.sequence →
    handover.waited.link.pending.outcome? request.handle = none
  resolved : ∀ request ∈ handover.start.link.pending.requests, request.sequence = handover.sequence →
    ∀ moves, (handover.arrived.run moves).link.pending.outcome? request.handle = some handover.outcome
  others : ∀ handle : PendingHandle, (∀ request ∈ handover.start.link.pending.requests,
      request.sequence = handover.sequence → request.ticket ≠ handle.ticket) →
    handover.arrived.link.pending.outcome? handle = handover.waited.link.pending.outcome? handle
  waiting : handover.arrived.link.pending.requests = handover.waited.link.pending.requests
  whole : handover.meanwhile = [] → handover.arrived.link =
    (handover.start.link.complete handover.sequence handover.outcome).2

variable {handover : Handover}

theorem mem_takeOut {request : PendingRequest} :
    request ∈ handover.takeOut.1 ↔
      request ∈ handover.start.link.pending.requests ∧ request.sequence = handover.sequence := by
  simp only [takeOut, PendingTable.mem_leaving, beq_iff_eq]

theorem arrives (ticketed : handover.start.link.pending.Ticketed) : handover.Arrives := by
  have evolves := handover.taken.evolves_run handover.meanwhile
  have counts : handover.waited.link.pending.Ticketed := (ticketed.takeOut _).evolves evolves
  have apart := (ticketed.apart_leaving _).evolves evolves
  have settled : handover.arrived.link.pending.Ticketed :=
    counts.resolve apart (ticketed.nodup_leaving _) handover.outcome
  constructor
  · intro request member own
    exact apart.outcome?_eq (List.mem_map_of_mem (mem_takeOut.mpr ⟨member, own⟩))
  · intro request member own moves
    apply Session.outcome?_run settled
    exact settled.outcome?_resolve.mpr (Or.inl ⟨rfl, request, mem_takeOut.mpr ⟨member, own⟩, rfl⟩)
  · intro handle other
    ext found
    rw [PendingTable.outcome?_eq_some_iff counts.resolved_once]
    refine settled.outcome?_resolve.trans ⟨?_, Or.inr⟩
    rintro (⟨_, request, leaving, same⟩ | resolved)
    · obtain ⟨member, own⟩ := mem_takeOut.mp leaving
      exact absurd same (other request member own)
    · exact resolved
  · rfl
  · intro nobody
    rw [arrived, waited, nobody]
    rfl

end Handover

namespace Session

variable {session : Session} {move : Move}

/-- How a session with these handlers that listens takes a response up, and how it goes on. -/
structure Correlates (handlers : HandlerTable) (session : Session) : Prop where
  matched : ∀ frame, session.listener = .reading → frame.isResponse = true →
    session.link.pending.isOutstanding frame.sequence = true →
      ∃ pending handler, session.link.pending.Settles pending frame.sequence (.ok frame) ∧
        handlers.Routes frame.commandId handler ∧
        session.move (.hear (.frame frame)) =
          { session with
            link := { session.link with
              pending, dispatched := session.link.dispatched ++ [(handler, frame)] }
            listener := .handling handler frame }
  handedOver : ∀ (event : Inbound.Event) sequence outcome, event.response? = some (sequence, outcome) →
    ∀ meanwhile, (Handover.mk session sequence outcome meanwhile).Arrives
  resumed : ∀ handler frame ending, session.listener = .handling handler frame →
    frame.isResponse = true → session.move (.handled ending) = { session with listener := .reading }
  malformed : ∀ header error, session.listener = .reading → header.commandId.isResponse = true →
    session.link.pending.isOutstanding header.sequence = true →
      ∃ pending, session.link.pending.Settles pending header.sequence (.error (.decoding error)) ∧
        session.move (.hear (.malformed header error)) =
          { session with link := { session.link with pending } }
  stray : ∀ event sequence outcome, event.response? = some (sequence, outcome) →
    session.link.pending.isOutstanding sequence = false → session.move (.hear event) = session
  fate : ∀ request ∈ session.link.pending.requests, ∀ moves, session.Fate request moves

theorem correlates_of_ticketed (ticketed : session.link.pending.Ticketed) :
    session.Correlates session.link.handlers where
  matched := by
    intro frame reading isResponse outstanding
    refine ⟨_, _, ticketed.settles_complete frame.sequence (.ok frame),
      session.link.handlers.routes_handlerFor frame.commandId, ?_⟩
    rw [move_hear reading, Listener.hear_response isResponse outstanding]
    rfl
  handedOver _ _ _ _ _ := Handover.arrives ticketed
  resumed := by
    intro handler frame ending handling isResponse
    simp only [Session.move, handling, Listener.handled, isResponse, if_true]
    rfl
  malformed := by
    intro header error reading isResponse _
    refine ⟨_, ticketed.settles_complete header.sequence (.error (.decoding error)), ?_⟩
    rw [move_hear reading, Listener.hear_malformed isResponse]
    simp only [withListener, reading]
  stray := by
    intro event sequence outcome response free
    cases reading : session.listener with
    | reading =>
        rw [move_hear reading, Listener.hear_of_free response free, withListener, ← reading]
    | handling handler frame => simp only [Session.move, reading]
    | ended ending => simp only [Session.move, reading]
  fate := fun _ waits moves => fate_of_waiting moves ticketed waits

def HasRoom (session : Session) : List Move → Prop
  | [] => True
  | move :: moves =>
      session.link.pending.size + ((session.move move).link.pending.issued - session.link.pending.issued) ≤
          0x7FFFFFFF ∧ (session.move move).HasRoom moves

instance decidableHasRoom (session : Session) : (moves : List Move) → Decidable (session.HasRoom moves)
  | [] => isTrue trivial
  | move :: moves => @instDecidableAnd _ _ (Nat.decLe _ _) (decidableHasRoom (session.move move) moves)

theorem accounts_run {usage : Usage} {retirements : List Retirement} (accounts : usage.Accounts retirements)
    (same : usage.table = session.link.pending) (moves : List Move) (room : session.HasRoom moves) :
    ∃ (later : Usage) (all : List Retirement), later.table = (session.run moves).link.pending ∧
      later.Accounts all := by
  induction moves generalizing session usage retirements with
  | nil => exact ⟨usage, retirements, same, accounts⟩
  | cons move moves ih =>
      obtain ⟨now, later⟩ := room
      have evolves := session.evolves_move move
      rw [← same] at evolves now
      obtain ⟨usage, retirements, after, accounted⟩ := accounts.evolves evolves now
      exact ih accounted after later

theorem routes_handings (handlers : HandlerTable) (frames : List Frame) :
    List.Forall₂ (fun handing frame => handing.2 = frame ∧ handlers.Routes frame.commandId handing.1)
      (Listener.handings handlers frames) frames := by
  rw [Listener.handings, List.forall₂_map_left_iff, List.forall₂_same]
  exact fun frame _ => ⟨rfl, handlers.routes_handlerFor frame.commandId⟩

/-- In every session that there can be, a response goes to the request with its number, once, and the
handler of its command gets it once; a response to nobody changes nothing; and a request that gets a
response gets the first one with its number. No two requests that wait have the same number. -/
theorem responses_correlated (config : SessionConfig) (handlers : HandlerTable) (sink : Sink)
    (moves : List Move) :
    let start := starting config handlers sink
    (start.run moves).Correlates handlers ∧
    List.Forall₂ (fun handing frame => handing.2 = frame ∧ handlers.Routes frame.commandId handing.1)
      (start.run moves).link.dispatched (start.collect handed moves) ∧
    (start.HasRoom moves →
      ((start.run moves).link.pending.requests.map PendingRequest.sequence).Nodup) := by
  intro start
  have ticketed : (start.run moves).link.pending.Ticketed :=
    PendingTable.ticketed_new.evolves (start.evolves_run moves)
  obtain ⟨same, dispatched⟩ := start.dispatched_run moves
  have correlates := correlates_of_ticketed ticketed
  rw [same] at correlates
  refine ⟨correlates, ?_, fun room => ?_⟩
  · rw [dispatched]
    exact routes_handings handlers _
  · obtain ⟨usage, retirements, table, accounts⟩ := accounts_run Usage.accounts_new rfl moves room
    rw [← table]
    exact accounts.distinct

theorem responses_correlated_sample :
    ∃ session, session = (starting {} .standard {}).run [.start .enquireLink] ∧
      session.move (.hear (.frame ⟨.ok, 77, .submitSmResp "7"⟩)) = session ∧
      (∃ pending handler, session.link.pending.Settles pending 1 (.ok ⟨.ok, 1, .enquireLinkResp⟩) ∧
        HandlerTable.standard.Routes .enquireLinkResp handler) ∧
      (session.link.pending.requests.map PendingRequest.sequence).Nodup := by
  have room : (starting {} .standard {}).HasRoom [.start .enquireLink] := ⟨by decide, trivial⟩
  obtain ⟨correlates, _, distinct⟩ := responses_correlated {} .standard {} [.start .enquireLink]
  obtain ⟨pending, handler, settles, routes, _⟩ := correlates.matched ⟨.ok, 1, .enquireLinkResp⟩ rfl rfl rfl
  exact ⟨_, rfl, correlates.stray _ _ _ rfl rfl, ⟨pending, handler, settles, routes⟩, distinct room⟩

end Session

end Smpp
