import Mathlib.Data.List.Forall2
import Smpp.Proofs.Codec.Fields
import Smpp.Proofs.Session.Tasks

/-!
The listener answers each request of the SMS centre once and in order, and it answers no response. The
other tasks may make any moves in between, also while a handler runs. The step lemma says what one move
adds to the octets that the listener has written, and the answers to a whole run follow from it.
-/

namespace Smpp

namespace Session

structure Exchange where
  event : Inbound.Event
  ending : Option HandlerEnd

def Exchange.isRequest (exchange : Exchange) : Bool :=
  match exchange.event with
  | .frame frame => !frame.isResponse
  | .malformed header _ => !header.commandId.isResponse
  | .desync _ | .closed | .cutOff _ => false

def Exchange.isUnbind (exchange : Exchange) : Bool :=
  match exchange.event with
  | .frame frame => frame.body == .unbind
  | .malformed .. | .desync _ | .closed | .cutOff _ => false

def inHand (session : Session) : List Inbound.Event :=
  match session.listener with
  | .handling _ frame => [.frame frame]
  | .reading | .ended _ => []

def takenUp (session : Session) (move : Move) : List Inbound.Event :=
  match session.listener, move with
  | .reading, .hear event => [event]
  | _, _ => []

def concluded (session : Session) (move : Move) : List Exchange :=
  match session.listener, move with
  | .reading, .hear event =>
      match (session.move move).listener with
      | .handling .. => []
      | .reading | .ended _ => [⟨event, none⟩]
  | .handling _ frame, .handled ending => [⟨.frame frame, some ending⟩]
  | _, _ => []

def writtenBy (session : Session) (move : Move) : Octets :=
  if move.isListening then
    (session.move move).link.writer.sink.accepted.drop session.link.writer.sink.accepted.length
  else []

def collect {Item : Type} (session : Session) (item : Session → Move → List Item) : List Move → List Item
  | [] => []
  | move :: moves => item session move ++ (session.move move).collect item moves

inductive Answers : Exchange → Frame → Prop
  | delivered {request : Frame} {message : ShortMessage} (body : request.body = .deliverSm message)
      (status : CommandStatus) :
      Answers ⟨.frame request, some (.returned status)⟩ ⟨status, request.sequence, .deliverSmResp ""⟩
  | deliveredToDying {request : Frame} {message : ShortMessage}
      (body : request.body = .deliverSm message) :
      Answers ⟨.frame request, some .died⟩ ⟨.systemError, request.sequence, .deliverSmResp ""⟩
  | deliveredToSlow {request : Frame} {message : ShortMessage}
      (body : request.body = .deliverSm message) :
      Answers ⟨.frame request, some .overran⟩ ⟨.ok, request.sequence, .deliverSmResp ""⟩
  | enquired {request : Frame} (body : request.body = .enquireLink) (ending : HandlerEnd) :
      Answers ⟨.frame request, some ending⟩ ⟨.ok, request.sequence, .enquireLinkResp⟩
  | unbound {request : Frame} (body : request.body = .unbind) (ending : HandlerEnd) :
      Answers ⟨.frame request, some ending⟩ ⟨.ok, request.sequence, .unbindResp⟩
  | unsupported {request : Frame} (notDelivery : ∀ message, request.body ≠ .deliverSm message)
      (notEnquiry : request.body ≠ .enquireLink) (notUnbind : request.body ≠ .unbind)
      (ending : HandlerEnd) :
      Answers ⟨.frame request, some ending⟩ ⟨.invalidCommandId, request.sequence, .genericNack⟩
  | undecodable {header : Header} {error : CodecError} (failure : error.status ≠ .ok) :
      Answers ⟨.malformed header error, none⟩ ⟨error.status, header.sequence, .genericNack⟩

theorem answers_answerTo (request : Frame) (ending : HandlerEnd) :
    Answers ⟨.frame request, some ending⟩ (Listener.answerTo request ending.status) := by
  obtain ⟨status, sequence, body⟩ := request
  cases body with
  | deliverSm message =>
      cases ending with
      | returned status => exact .delivered rfl status
      | died => exact .deliveredToDying rfl
      | overran => exact .deliveredToSlow rfl
  | enquireLink => exact .enquired rfl ending
  | unbind => exact .unbound rfl ending
  | _ => exact .unsupported (by simp) (by simp) (by simp) ending

theorem Answers.encodable {exchange : Exchange} {answer : Frame} (answers : Answers exchange answer) :
    answer.encode.failure = none := by
  cases answers <;> rfl

theorem encodable_of_answers {exchanges : List Exchange} {answers : List Frame}
    (paired : List.Forall₂ Answers exchanges answers) :
    ∀ answer ∈ answers, answer.encode.failure = none := by
  induction paired with
  | nil =>
      intro answer member
      cases member
  | cons first _ ih =>
      intro answer member
      rcases List.mem_cons.mp member with rfl | later
      · exact first.encodable
      · exact ih answer later

structure IsQuiet (session : Session) : Prop where
  unasked : session.link.closeRequested = false
  staying : ∀ result, session.call ≠ .leaving result
  empty : session.link.writer.buffered = []

/-- What a part of a run adds: the listener has done with what it took up, except for the frame that a
handler has, it has answered the requests among that, and it has gone on up to an unbind. -/
structure Adds (before after : Session) (heard : List Inbound.Event) (exchanges : List Exchange)
    (octets : Octets) : Prop where
  kept : before.inHand ++ heard = exchanges.map Exchange.event ++ after.inHand
  answered : ∃ answers, List.Forall₂ Answers (exchanges.filter Exchange.isRequest) answers ∧
    octets = answers.flatMap fun answer => answer.encode.octets
  ending :
    (after.IsQuiet ∧ (∀ outcome, after.listener ≠ .ended outcome) ∧
      ∀ exchange ∈ exchanges, exchange.isUnbind = false) ∨
    (after.listener = .ended (.ok ()) ∧ ∃ earlier last, exchanges = earlier ++ [last] ∧
      last.isUnbind = true ∧ ∀ exchange ∈ earlier, exchange.isUnbind = false)

/-- Nobody has asked the session to close, which a write that fails would have done, or the listener
has come to an end on its own before that. -/
def IsUndisturbed (session : Session) : Prop :=
  session.link.closeRequested = false ∨ session.listener = .ended (.ok ())

section

variable {before after session : Session} {heard : List Inbound.Event}

theorem adds_nothing (quiet : after.IsQuiet) (listening : ∀ outcome, after.listener ≠ .ended outcome)
    (kept : before.inHand ++ heard = after.inHand) : Adds before after heard [] [] where
  kept := kept
  answered := ⟨[], .nil, rfl⟩
  ending := Or.inl ⟨quiet, listening, fun _ member => by cases member⟩

theorem inHand_of_reading (reading : session.listener = .reading) : session.inHand = [] := by
  simp only [inHand, reading]

theorem inHand_of_handling {handler : Handler} {frame : Frame}
    (handling : session.listener = .handling handler frame) : session.inHand = [.frame frame] := by
  simp only [inHand, handling]

theorem inHand_of_ended {outcome : Except SessionError Unit} (ended : session.listener = .ended outcome) :
    session.inHand = [] := by
  simp only [inHand, ended]

theorem adds_response {event : Inbound.Event} {ending : Option HandlerEnd} (quiet : after.IsQuiet)
    (reading : after.listener = .reading) (kept : before.inHand ++ heard = [event])
    (response : Exchange.isRequest ⟨event, ending⟩ = false)
    (notUnbind : Exchange.isUnbind ⟨event, ending⟩ = false) :
    Adds before after heard [⟨event, ending⟩] [] where
  kept := by simp only [kept, inHand_of_reading reading, List.map_cons, List.map_nil, List.append_nil]
  answered := by
    refine ⟨[], ?_, rfl⟩
    simp only [List.filter_cons, response, Bool.false_eq_true, ↓reduceIte, List.filter_nil]
    exact .nil
  ending := by
    refine Or.inl ⟨quiet, by simp [reading], ?_⟩
    simpa using notUnbind

theorem adds_request {event : Inbound.Event} {ending : Option HandlerEnd} {answer : Frame}
    (answers : Answers ⟨event, ending⟩ answer) (request : Exchange.isRequest ⟨event, ending⟩ = true)
    (empty : after.inHand = []) (kept : before.inHand ++ heard = [event])
    (next : (after.IsQuiet ∧ (∀ outcome, after.listener ≠ .ended outcome) ∧
        Exchange.isUnbind ⟨event, ending⟩ = false) ∨
      (after.listener = .ended (.ok ()) ∧ Exchange.isUnbind ⟨event, ending⟩ = true)) :
    Adds before after heard [⟨event, ending⟩] answer.encode.octets where
  kept := by simp only [kept, empty, List.map_cons, List.map_nil, List.append_nil]
  answered := by
    refine ⟨[answer], ?_, (List.append_nil _).symm⟩
    simp only [List.filter_cons, request, ↓reduceIte, List.filter_nil]
    exact .cons answers .nil
  ending := by
    rcases next with ⟨quiet, listening, notUnbind⟩ | ⟨ended, unbind⟩
    · exact Or.inl ⟨quiet, listening, by simpa using notUnbind⟩
    · exact Or.inr ⟨ended, [], _, rfl, unbind, fun _ member => by cases member⟩

theorem nothing_of_other (session : Session) {move : Move} (other : move.isListening = false) :
    session.takenUp move = [] ∧ session.concluded move = [] ∧ session.writtenBy move = [] := by
  refine ⟨?_, ?_, ?_⟩
  · unfold takenUp
    cases move <;> first | (cases session.listener <;> rfl) | cases other
  · unfold concluded
    cases move <;> first | (cases session.listener <;> rfl) | cases other
  · simp only [writtenBy, other, Bool.false_eq_true, ↓reduceIte]

theorem adds_of_other {move : Move} (quiet : session.IsQuiet)
    (listening : ∀ outcome, session.listener ≠ .ended outcome) (other : move.isListening = false)
    (undisturbed : (session.move move).IsUndisturbed) :
    Adds session (session.move move) (session.takenUp move) (session.concluded move)
      (session.writtenBy move) := by
  have stays := session.stays_move other
  have same := listener_move other (fun _ => quiet.staying)
  have unasked : (session.move move).link.closeRequested = false := by
    rcases undisturbed with unasked | ended
    · exact unasked
    · exact absurd (same.symm.trans ended) (listening _)
  have quietAfter : (session.move move).IsQuiet :=
    ⟨unasked, fun result leaving => quiet.staying result (stays.2 unasked result leaving),
      (stays.1 unasked).2 quiet.empty⟩
  obtain ⟨heard, exchanges, octets⟩ := session.nothing_of_other other
  rw [heard, exchanges, octets]
  refine adds_nothing quietAfter (fun outcome => same ▸ listening outcome) ?_
  simp only [inHand, same, List.append_nil]

theorem adds_of_idle {move : Move} (quiet : session.IsQuiet)
    (listening : ∀ outcome, session.listener ≠ .ended outcome)
    (takesUp : session.takenUp move = []) (concludes : session.concluded move = [])
    (listener : (session.move move).listener = session.listener)
    (writer : (session.move move).link.writer = session.link.writer)
    (request : (session.move move).link.closeRequested = session.link.closeRequested)
    (call : (session.move move).call = session.call) :
    Adds session (session.move move) (session.takenUp move) (session.concluded move)
      (session.writtenBy move) := by
  have octets : session.writtenBy move = [] := by
    simp only [writtenBy, writer, List.drop_length, ite_self]
  rw [takesUp, concludes, octets]
  refine adds_nothing ⟨request ▸ quiet.unasked, call ▸ quiet.staying, writer ▸ quiet.empty⟩
    (listener ▸ listening) ?_
  simp only [inHand, listener, List.append_nil]

theorem write_answer {link : Link} (answer : Frame) (empty : link.writer.buffered = [])
    (encodable : answer.encode.failure = none) :
    (∃ writer, link.write answer = (.ok (), { link with writer }) ∧ writer.buffered = [] ∧
      writer.sink.accepted = link.writer.sink.accepted ++ answer.encode.octets) ∨
    ∃ error after, link.write answer = (.error error, after) ∧ after.closeRequested = true := by
  rcases link.write_cases answer with
    ⟨writer, wrote, same⟩ | ⟨error, failed, _⟩ | ⟨reason, writer, _, same⟩
  · obtain ⟨_, received, none, _⟩ := Outbound.received_write wrote
    refine Or.inl ⟨writer, same, none, ?_⟩
    rw [Outbound.received, Outbound.received, empty, none, List.append_nil, List.append_nil] at received
    exact received
  · rw [encodable] at failed
    cases failed
  · exact Or.inr ⟨_, _, same, rfl⟩

theorem not_undisturbed_of_failure {link : Link} {error : SessionError}
    (asked : link.closeRequested = true) :
    ¬(session.withListener (Listener.finish link (.error error))).IsUndisturbed := by
  rintro (unasked | ended)
  · cases asked.symm.trans unasked
  · cases ended

theorem adds_of_dispatch {frame : Frame} {handler : Handler} {link : Link} (quiet : session.IsQuiet)
    (reading : session.listener = .reading)
    (moved : session.move (.hear (.frame frame)) = session.withListener (link, .handling handler frame))
    (writer : link.writer = session.link.writer)
    (request : link.closeRequested = session.link.closeRequested) :
    Adds session (session.move (.hear (.frame frame))) (session.takenUp (.hear (.frame frame)))
      (session.concluded (.hear (.frame frame))) (session.writtenBy (.hear (.frame frame))) := by
  have concluded : session.concluded (.hear (.frame frame)) = [] := by
    simp only [Session.concluded, reading, moved, withListener]
  have octets : session.writtenBy (.hear (.frame frame)) = [] := by
    simp only [writtenBy, moved, withListener, writer, List.drop_length, ite_self]
  rw [concluded, octets, moved]
  refine adds_nothing ⟨request ▸ quiet.unasked, quiet.staying, writer ▸ quiet.empty⟩
    (fun _ => by simp [withListener]) ?_
  rw [inHand_of_reading reading, inHand_of_handling rfl]
  simp only [takenUp, reading, List.nil_append]

theorem adds_of_silence {event : Inbound.Event} {link : Link} (quiet : session.IsQuiet)
    (reading : session.listener = .reading)
    (moved : session.move (.hear event) = session.withListener (link, .reading))
    (writer : link.writer = session.link.writer)
    (request : link.closeRequested = session.link.closeRequested)
    (response : Exchange.isRequest ⟨event, none⟩ = false)
    (notUnbind : Exchange.isUnbind ⟨event, none⟩ = false) :
    Adds session (session.move (.hear event)) (session.takenUp (.hear event))
      (session.concluded (.hear event)) (session.writtenBy (.hear event)) := by
  have concluded : session.concluded (.hear event) = [⟨event, none⟩] := by
    simp only [Session.concluded, reading, moved, withListener]
  have octets : session.writtenBy (.hear event) = [] := by
    simp only [writtenBy, moved, withListener, writer, List.drop_length, ite_self]
  rw [concluded, octets, moved]
  refine adds_response ⟨request ▸ quiet.unasked, quiet.staying, writer ▸ quiet.empty⟩ rfl ?_
    response notUnbind
  rw [inHand_of_reading reading]
  simp only [takenUp, reading, List.nil_append]

theorem isUnbind_of_isResponse {frame : Frame} {ending : Option HandlerEnd}
    (response : frame.isResponse = true) : Exchange.isUnbind ⟨.frame frame, ending⟩ = false := by
  simp only [Exchange.isUnbind, beq_eq_false_iff_ne, ne_eq]
  intro unbind
  rw [Frame.isResponse, Frame.commandId, unbind] at response
  revert response
  decide

theorem adds_of_answer {move : Move} {event : Inbound.Event} {ending : Option HandlerEnd}
    {answer : Frame} {link : Link} {listener : Listener} (isListening : move.isListening = true)
    (moved : session.move move = session.withListener (link, listener))
    (concluded : session.concluded move = [⟨event, ending⟩])
    (kept : session.inHand ++ session.takenUp move = [event])
    (accepted : link.writer.sink.accepted =
      session.link.writer.sink.accepted ++ answer.encode.octets)
    (answers : Answers ⟨event, ending⟩ answer)
    (request : Exchange.isRequest ⟨event, ending⟩ = true)
    (next : ((session.withListener (link, listener)).IsQuiet ∧ listener = .reading ∧
        Exchange.isUnbind ⟨event, ending⟩ = false) ∨
      (listener = .ended (.ok ()) ∧ Exchange.isUnbind ⟨event, ending⟩ = true)) :
    Adds session (session.move move) (session.takenUp move) (session.concluded move)
      (session.writtenBy move) := by
  have octets : session.writtenBy move = answer.encode.octets := by
    simp only [writtenBy, isListening, ↓reduceIte, moved, withListener, accepted, List.drop_left]
  rw [concluded, octets, moved]
  rcases next with ⟨quiet, rfl, notUnbind⟩ | ⟨rfl, unbind⟩
  · exact adds_request answers request (inHand_of_reading rfl) kept
      (Or.inl ⟨quiet, fun _ => by simp [withListener], notUnbind⟩)
  · exact adds_request answers request (inHand_of_ended rfl) kept (Or.inr ⟨rfl, unbind⟩)

theorem adds_of_hear {event : Inbound.Event} (quiet : session.IsQuiet)
    (reading : session.listener = .reading) (goesOn : event.isLast = false)
    (undisturbed : (session.move (.hear event)).IsUndisturbed) :
    Adds session (session.move (.hear event)) (session.takenUp (.hear event))
      (session.concluded (.hear event)) (session.writtenBy (.hear event)) := by
  have moved : session.move (.hear event) =
      session.withListener (Listener.hear session.link event) := by
    simp only [Session.move, reading]
  cases event with
  | frame frame =>
      simp only [Listener.hear, Listener.onFrame] at moved
      cases response : frame.isResponse with
      | true =>
          have silent : Exchange.isRequest ⟨.frame frame, none⟩ = false := by
            simp only [Exchange.isRequest, response, Bool.not_true]
          simp only [response, ↓reduceIte] at moved
          split at moved
          · exact adds_of_dispatch quiet reading moved rfl rfl
          · exact adds_of_silence quiet reading moved rfl rfl silent (isUnbind_of_isResponse response)
      | false =>
          simp only [response, Bool.false_eq_true, ↓reduceIte] at moved
          exact adds_of_dispatch quiet reading moved rfl rfl
  | malformed header error =>
      simp only [Listener.hear, Listener.onMalformed] at moved
      cases response : header.commandId.isResponse with
      | true =>
          have silent : Exchange.isRequest ⟨.malformed header error, none⟩ = false := by
            simp only [Exchange.isRequest, response, Bool.not_true]
          simp only [response, ↓reduceIte] at moved
          exact adds_of_silence quiet reading moved rfl rfl silent rfl
      | false =>
          simp only [response, Bool.false_eq_true, ↓reduceIte, Listener.reply] at moved
          rcases write_answer ⟨error.status, header.sequence, .genericNack⟩ quiet.empty rfl with
            ⟨writer, wrote, empty, accepted⟩ | ⟨failure, after, failed, asked⟩
          · simp only [wrote] at moved
            refine adds_of_answer rfl moved ?_ ?_ accepted (.undecodable error.status_ne_ok) ?_
              (Or.inl ⟨⟨quiet.unasked, quiet.staying, empty⟩, rfl, rfl⟩)
            · simp only [concluded, reading, moved, withListener]
            · simp only [inHand_of_reading reading, takenUp, reading, List.nil_append]
            · simp only [Exchange.isRequest, response, Bool.not_false]
          · simp only [failed] at moved
            rw [moved] at undisturbed
            exact (not_undisturbed_of_failure asked undisturbed).elim
  | desync error => cases goesOn
  | closed => cases goesOn
  | cutOff octets => cases goesOn

theorem adds_of_handled {handler : Handler} {frame : Frame} {ending : HandlerEnd} (quiet : session.IsQuiet)
    (handling : session.listener = .handling handler frame)
    (undisturbed : (session.move (.handled ending)).IsUndisturbed) :
    Adds session (session.move (.handled ending)) (session.takenUp (.handled ending))
      (session.concluded (.handled ending)) (session.writtenBy (.handled ending)) := by
  have moved : session.move (.handled ending) =
      session.withListener (Listener.handled session.link frame ending) := by
    simp only [Session.move, handling]
  have concluded : session.concluded (.handled ending) = [⟨.frame frame, some ending⟩] := by
    simp only [Session.concluded, handling]
  have kept : session.inHand ++ session.takenUp (.handled ending) = [.frame frame] := by
    rw [inHand_of_handling handling]
    simp only [takenUp, handling, List.append_nil]
  simp only [Listener.handled] at moved
  cases response : frame.isResponse with
  | true =>
      have silent : Exchange.isRequest ⟨.frame frame, some ending⟩ = false := by
        simp only [Exchange.isRequest, response, Bool.not_true]
      have octets : session.writtenBy (.handled ending) = [] := by
        simp only [writtenBy, moved, response, ↓reduceIte, withListener, List.drop_length, ite_self]
      simp only [response, ↓reduceIte] at moved
      rw [concluded, octets, moved]
      exact adds_response ⟨quiet.unasked, quiet.staying, quiet.empty⟩ rfl kept silent
        (isUnbind_of_isResponse response)
  | false =>
      have request : Exchange.isRequest ⟨.frame frame, some ending⟩ = true := by
        simp only [Exchange.isRequest, response, Bool.not_false]
      have answers := answers_answerTo frame ending
      simp only [response, Bool.false_eq_true, ↓reduceIte] at moved
      rcases write_answer (Listener.answerTo frame ending.status) quiet.empty answers.encodable with
        ⟨writer, wrote, empty, accepted⟩ | ⟨failure, after, failed, asked⟩
      · simp only [wrote] at moved
        split at moved
        · rename_i unbind
          refine adds_of_answer rfl moved concluded kept ?_ answers request (Or.inr ⟨rfl, ?_⟩)
          · exact (Outbound.accepted_shutdown empty).trans accepted
          · simp only [Exchange.isUnbind, unbind, beq_self_eq_true]
        · rename_i notUnbind
          refine adds_of_answer rfl moved concluded kept accepted answers request (Or.inl ⟨?_, rfl, ?_⟩)
          · exact ⟨quiet.unasked, quiet.staying, empty⟩
          · simpa only [Exchange.isUnbind, beq_eq_false_iff_ne] using notUnbind
      · simp only [failed] at moved
        rw [moved] at undisturbed
        exact (not_undisturbed_of_failure asked undisturbed).elim

theorem adds_of_move {move : Move} (quiet : session.IsQuiet)
    (listening : ∀ outcome, session.listener ≠ .ended outcome)
    (frames : ∀ event ∈ session.takenUp move, event.isLast = false)
    (undisturbed : (session.move move).IsUndisturbed) :
    Adds session (session.move move) (session.takenUp move) (session.concluded move)
      (session.writtenBy move) := by
  -- Where the listener does not wait for the move, every field that matters is the same by computation.
  cases doing : session.listener with
  | ended outcome => exact absurd doing (listening outcome)
  | reading =>
      cases move with
      | hear event =>
          refine adds_of_hear quiet doing (frames event ?_) undisturbed
          simp only [takenUp, doing, List.mem_singleton]
      | handled ending =>
          apply adds_of_idle quiet listening <;>
            simp only [takenUp, concluded, Session.move, doing]
      | stop =>
          apply adds_of_idle quiet listening <;>
            simp [takenUp, concluded, Session.move, doing, Listener.stop, quiet.unasked, withListener]
      | sweep =>
          apply adds_of_idle quiet listening <;>
            simp only [takenUp, concluded, Session.move, doing, Link.sweep]
      | _ => exact adds_of_other quiet listening rfl undisturbed
  | handling handler frame =>
      cases move with
      | handled ending => exact adds_of_handled quiet doing undisturbed
      | hear event =>
          apply adds_of_idle quiet listening <;>
            simp only [takenUp, concluded, Session.move, doing]
      | stop =>
          apply adds_of_idle quiet listening <;>
            simp only [takenUp, concluded, Session.move, doing]
      | sweep =>
          apply adds_of_idle quiet listening <;>
            simp only [takenUp, concluded, Session.move, doing]
      | _ => exact adds_of_other quiet listening rfl undisturbed

end

theorem Adds.trans {first second third : Session} {heard others : List Inbound.Event}
    {exchanges further : List Exchange} {octets more : Octets}
    (before : Adds first second heard exchanges octets)
    (listening : ∀ outcome, second.listener ≠ .ended outcome)
    (after : Adds second third others further more) :
    Adds first third (heard ++ others) (exchanges ++ further) (octets ++ more) where
  kept := by
    rw [← List.append_assoc, before.kept, List.append_assoc, after.kept, List.map_append,
      List.append_assoc]
  answered := by
    obtain ⟨answers, paired, wrote⟩ := before.answered
    obtain ⟨others, pairedAfter, wroteAfter⟩ := after.answered
    refine ⟨answers ++ others, ?_, ?_⟩
    · rw [List.filter_append]
      exact List.rel_append paired pairedAfter
    · rw [wrote, wroteAfter, List.flatMap_append]
  ending := by
    rcases before.ending with ⟨_, _, none⟩ | ⟨ended, _⟩
    · rcases after.ending with ⟨quiet, goesOn, noneAfter⟩ | ⟨ended, earlier, last, rfl, unbind, noneAfter⟩
      · refine Or.inl ⟨quiet, goesOn, fun exchange member => ?_⟩
        exact (List.mem_append.mp member).elim (none exchange) (noneAfter exchange)
      · refine Or.inr ⟨ended, exchanges ++ earlier, last, (List.append_assoc ..).symm, unbind, ?_⟩
        intro exchange member
        exact (List.mem_append.mp member).elim (none exchange) (noneAfter exchange)
    · exact absurd ended (listening _)

def heard (session : Session) (moves : List Move) : List Inbound.Event :=
  session.collect takenUp moves

def exchanges (session : Session) (moves : List Move) : List Exchange :=
  session.collect concluded moves

def listenerOctets (session : Session) (moves : List Move) : Octets :=
  session.collect writtenBy moves

theorem nothing_of_ended {session : Session} {outcome : Except SessionError Unit}
    (ended : session.listener = .ended outcome) (moves : List Move) :
    session.heard moves = [] ∧ session.exchanges moves = [] ∧ session.listenerOctets moves = [] ∧
      (session.run moves).listener = .ended outcome := by
  induction moves generalizing session with
  | nil => exact ⟨rfl, rfl, rfl, ended⟩
  | cons move moves ih =>
      obtain ⟨heard, exchanges, octets, last⟩ := ih (listener_move_of_ended ended move)
      have written : session.writtenBy move = [] := by
        unfold writtenBy
        split
        · rename_i listening
          rw [move_of_ended ended listening, List.drop_length]
        · rfl
      unfold Session.heard at heard
      unfold Session.exchanges at exchanges
      unfold Session.listenerOctets at octets
      simp only [Session.heard, Session.exchanges, Session.listenerOctets, collect, heard, exchanges,
        octets, written, takenUp, concluded, ended, List.append_nil, run_cons, last, and_self]

def Undisturbed (session : Session) (moves : List Move) : Prop :=
  ∀ earlier, earlier <+: moves → (session.run earlier).IsUndisturbed

theorem undisturbed_nil {session : Session} (undisturbed : session.IsUndisturbed) :
    session.Undisturbed [] := by
  rintro earlier none
  rw [List.prefix_nil.mp none]
  exact undisturbed

theorem undisturbed_cons {session : Session} {move : Move} {moves : List Move}
    (undisturbed : session.IsUndisturbed) (later : (session.move move).Undisturbed moves) :
    session.Undisturbed (move :: moves) := by
  intro earlier starts
  rcases List.prefix_cons_iff.mp starts with rfl | ⟨others, rfl, rest⟩
  · exact undisturbed
  · exact later others rest

theorem adds_of_run {session : Session} (moves : List Move) (quiet : session.IsQuiet)
    (listening : ∀ outcome, session.listener ≠ .ended outcome)
    (frames : ∀ event ∈ session.heard moves, event.isLast = false)
    (undisturbed : session.Undisturbed moves) :
    Adds session (session.run moves) (session.heard moves) (session.exchanges moves)
      (session.listenerOctets moves) := by
  induction moves generalizing session with
  | nil => exact adds_nothing quiet listening (List.append_nil _)
  | cons move moves ih =>
      have first := adds_of_move quiet listening
        (fun event member => frames event (List.mem_append_left _ member))
        (undisturbed [move] ⟨moves, rfl⟩)
      -- Either the first move leaves all as it was for the others, or there is nothing left to do.
      rcases first.ending with ⟨quietAfter, goesOn, _⟩ | ⟨ended, _⟩
      · refine first.trans goesOn (ih quietAfter goesOn ?_ ?_)
        · exact fun event member => frames event (List.mem_append_right _ member)
        · rintro earlier ⟨later, rfl⟩
          exact undisturbed (move :: earlier) ⟨later, rfl⟩
      · obtain ⟨noneHeard, noneConcluded, noneWritten, last⟩ := nothing_of_ended ended moves
        have heard : session.heard (move :: moves) = session.takenUp move :=
          (congrArg (session.takenUp move ++ ·) noneHeard).trans (List.append_nil _)
        have exchanges : session.exchanges (move :: moves) = session.concluded move :=
          (congrArg (session.concluded move ++ ·) noneConcluded).trans (List.append_nil _)
        have octets : session.listenerOctets (move :: moves) = session.writtenBy move :=
          (congrArg (session.writtenBy move ++ ·) noneWritten).trans (List.append_nil _)
        rw [heard, exchanges, octets, run_cons]
        refine ⟨?_, first.answered, ?_⟩
        · rw [first.kept, inHand_of_ended ended, inHand_of_ended last]
        · rcases first.ending with ⟨_, goesOn, _⟩ | ⟨_, unbind⟩
          · exact absurd ended (goesOn _)
          · exact Or.inr ⟨last, unbind⟩

def starting (config : SessionConfig) (handlers : HandlerTable) (sink : Sink) : Session :=
  let session := ofConfig config handlers
  { session with link := { session.link with writer := { sink } } }

theorem malformed_of_unbind {policy : TagPolicy} {octets : Octets} {header : Header}
    (opens : (Header.decoder.decode octets).1 = .ok header) (unbind : header.commandId = .unbind)
    (long : Header.size < octets.length) :
    ∃ error, Inbound.Event.ofFrame policy octets = .malformed header error := by
  have some : octets.drop Header.size ≠ [] := by
    rw [ne_eq, List.drop_eq_nil_iff]
    omega
  have found : Body.decoders.lookup header.commandId = .some (pure .unbind) := by
    rw [unbind]
    rfl
  have refused : ((Frame.bodyDecoder policy header).decode (octets.drop Header.size)).1 =
      .error (.lengthMismatch header.bodyLength
        (header.bodyLength - (octets.drop Header.size).length)) := by
    rw [Frame.bodyDecoder, found, Decoder.decode_bind_of_ok (Decoder.decode_pure _ _),
      Decoder.decode_bind_of_ok (Decoder.decode_get _)]
    simp only [List.isEmpty_eq_false_iff.mpr some, Bool.not_false, ↓reduceIte]
    rfl
  refine ⟨.lengthMismatch header.bodyLength (header.bodyLength - (octets.drop Header.size).length), ?_⟩
  simp only [Inbound.Event.ofFrame, opens, refused]

/-- The listener answers what it has heard request by request, each with its own number and as its
handler ended, up to the first unbind, which ends it; it answers nothing else. -/
theorem requests_answered_once (config : SessionConfig) (handlers : HandlerTable) (sink : Sink)
    (moves : List Move)
    (frames : ∀ event ∈ (starting config handlers sink).heard moves, event.isLast = false)
    (undisturbed : (starting config handlers sink).Undisturbed moves) :
    let session := starting config handlers sink
    (∃ answers, List.Forall₂ Answers ((session.exchanges moves).filter Exchange.isRequest) answers ∧
      (∀ answer ∈ answers, answer.encode.failure = none) ∧
      session.listenerOctets moves = answers.flatMap fun answer => answer.encode.octets) ∧
    session.heard moves =
      (session.exchanges moves).map Exchange.event ++ (session.run moves).inHand ∧
    ((∀ outcome, (session.run moves).listener ≠ .ended outcome) ∧
        (∀ exchange ∈ session.exchanges moves, exchange.isUnbind = false) ∨
      (session.run moves).listener = .ended (.ok ()) ∧
        ∃ earlier last, session.exchanges moves = earlier ++ [last] ∧ last.isUnbind = true ∧
          ∀ exchange ∈ earlier, exchange.isUnbind = false) ∧
    ∀ policy octets header, (Header.decoder.decode octets).1 = .ok header →
      header.commandId = .unbind → Header.size < octets.length →
      ∃ error, Inbound.Event.ofFrame policy octets = .malformed header error := by
  intro session
  have adds : Adds session (session.run moves) _ _ _ :=
    adds_of_run moves ⟨rfl, fun _ => by simp [session, starting, ofConfig], rfl⟩
      (fun _ => by simp [session, starting, ofConfig]) frames undisturbed
  refine ⟨?_, adds.kept, ?_, fun _ _ _ => malformed_of_unbind⟩
  · obtain ⟨answers, paired, wrote⟩ := adds.answered
    exact ⟨answers, paired, encodable_of_answers paired, wrote⟩
  · rcases adds.ending with ⟨_, goesOn, none⟩ | ended
    · exact Or.inl ⟨goesOn, none⟩
    · exact Or.inr ended

/-- The SMS centre enquires, sends a message that cannot be decoded and a response to nobody, and unbinds;
the application enquires while a handler runs. -/
def sampleMoves : List Move :=
  [.hear (.frame ⟨.ok, 3, .enquireLink⟩), .start .enquireLink, .handled (.returned .systemError),
   .hear (.malformed ⟨20, .deliverSm, .ok, 4⟩ (.truncated "service_type")), .sweep,
   .hear (.frame ⟨.ok, 77, .submitSmResp "7"⟩), .age 100, .hear (.frame ⟨.ok, 5, .unbind⟩),
   .handled .died, .hear (.frame ⟨.ok, 6, .enquireLink⟩)]

theorem requests_answered_once_sample :
    (starting {} .standard {}).Undisturbed sampleMoves ∧
      ((starting {} .standard {}).run sampleMoves).listener = .ended (.ok ()) := by
  have frames : ∀ event ∈ (starting {} .standard {}).heard sampleMoves, event.isLast = false := by
    decide
  have undisturbed : (starting {} .standard {}).Undisturbed sampleMoves := by
    unfold sampleMoves
    repeat refine undisturbed_cons (Or.inl rfl) ?_
    exact undisturbed_nil (Or.inl rfl)
  refine ⟨undisturbed, ?_⟩
  obtain ⟨_, _, ending, _⟩ := requests_answered_once {} .standard {} sampleMoves frames undisturbed
  rcases ending with ⟨_, none⟩ | ⟨ended, _⟩
  · exact absurd (none ⟨.frame ⟨.ok, 5, .unbind⟩, some .died⟩
      (.tail _ (.tail _ (.tail _ (.head _))))) (by decide)
  · exact ended

end Session

end Smpp
