import Smpp.Proofs.Session.Acts
import Smpp.Proofs.Stream.Writing

/-!
What the application and the keep-alive leave to the listener. Their moves never change what the
listener is doing, and the octets that they write are either all with the transport or a reason to close
the session.
-/

namespace Smpp

namespace Link

theorem put_cases (link : Link) (frame : Frame) :
    (∃ writer, link.writer.write frame = (.ok (), writer) ∧ link.put frame = (.ok (), { link with writer })) ∨
    (∃ error, frame.encode.failure = some error ∧ link.put frame = (.error (.encoding error), link)) ∨
    ∃ reason writer, link.writer.write frame = (.error (.transport reason), writer) ∧
      link.put frame = (.error (.writeFailed reason), { link with writer }) := by
  unfold put
  cases written : link.writer.write frame with
  | mk outcome writer =>
      cases outcome with
      | ok done => exact Or.inl ⟨writer, rfl, rfl⟩
      | error error =>
          cases error with
          | encoding error =>
              obtain ⟨failed, rfl⟩ := Outbound.write_of_encoding written
              exact Or.inr (Or.inl ⟨error, failed, rfl⟩)
          | transport reason => exact Or.inr (Or.inr ⟨reason, writer, rfl, rfl⟩)

theorem write_of_accepted {link : Link} {frame : Frame} {writer : Outbound}
    (accepted : link.writer.write frame = (.ok (), writer)) :
    link.write frame = (.ok (), { link with writer }) := by
  rw [write, put, accepted]

theorem write_cases (link : Link) (frame : Frame) :
    (∃ writer, link.writer.write frame = (.ok (), writer) ∧
      link.write frame = (.ok (), { link with writer })) ∨
    (∃ error, frame.encode.failure = some error ∧
      link.write frame = (.error (.encoding error), link)) ∨
    ∃ reason writer, link.writer.write frame = (.error (.transport reason), writer) ∧
      link.write frame = (.error (.writeFailed reason),
        ({ link with writer }.setState .disconnected).requestClose (some .connectionLost)) := by
  rcases link.put_cases frame with ⟨writer, wrote, same⟩ | ⟨error, failed, same⟩ | ⟨reason, writer, wrote, same⟩
  · exact Or.inl ⟨writer, wrote, write_of_accepted wrote⟩
  · refine Or.inr (Or.inl ⟨error, failed, ?_⟩)
    rw [write, same]
  · refine Or.inr (Or.inr ⟨reason, writer, wrote, ?_⟩)
    rw [write, same]

theorem pending_write (link : Link) (frame : Frame) : (link.write frame).2.pending = link.pending := by
  rcases link.write_cases frame with ⟨writer, _, same⟩ | ⟨error, _, same⟩ | ⟨reason, writer, _, same⟩
  · rw [same]
  · rw [same]
  · rw [same]
    rfl

theorem send_cases (link : Link) (body : Body) :
    (∃ writer, (link.register body.commandId).2.write ⟨.ok, (link.register body.commandId).1.sequence, body⟩ =
        (.ok (), { (link.register body.commandId).2 with writer }) ∧
      link.send body =
        (.ok (link.register body.commandId).1, { (link.register body.commandId).2 with writer })) ∨
    ∃ error after, link.send body = (.error error, after) ∧ after.pending =
      ((link.register body.commandId).2.withdraw (link.register body.commandId).1).pending := by
  unfold send transmit
  dsimp only
  rcases (link.register body.commandId).2.write_cases ⟨.ok, (link.register body.commandId).1.sequence, body⟩ with
    ⟨writer, _, same⟩ | ⟨error, _, same⟩ | ⟨reason, writer, _, same⟩
  · rw [same]
    exact Or.inl ⟨writer, rfl, rfl⟩
  · rw [same]
    exact Or.inr ⟨_, _, rfl, rfl⟩
  · rw [same]
    exact Or.inr ⟨_, _, rfl, rfl⟩

/-- Unless the session is asked to close, the writer keeps nothing back that it did not keep before. -/
def Keeps (before after : Link) : Prop :=
  after.closeRequested = false → before.closeRequested = false ∧
    (before.writer.buffered = [] → after.writer.buffered = [])

theorem Keeps.trans {first second third : Link} (before : first.Keeps second)
    (after : second.Keeps third) : first.Keeps third := by
  intro quiet
  obtain ⟨middle, later⟩ := after quiet
  obtain ⟨start, earlier⟩ := before middle
  exact ⟨start, fun empty => later (earlier empty)⟩

theorem keeps_of_same {before after : Link} (request : after.closeRequested = before.closeRequested)
    (writer : after.writer = before.writer) : before.Keeps after := by
  intro quiet
  rw [request] at quiet
  rw [writer]
  exact ⟨quiet, id⟩

theorem keeps_of_request {before after : Link} (request : after.closeRequested = true) :
    before.Keeps after := by
  intro quiet
  rw [request] at quiet
  cases quiet

theorem keeps_write (link : Link) (frame : Frame) : link.Keeps (link.write frame).2 := by
  rcases link.write_cases frame with ⟨writer, wrote, same⟩ | ⟨error, _, same⟩ | ⟨reason, writer, _, same⟩
  · rw [same]
    exact fun quiet => ⟨quiet, fun _ => (Outbound.received_write wrote).2.2.1⟩
  · rw [same]
    exact keeps_of_same rfl rfl
  · rw [same]
    exact keeps_of_request rfl

theorem keeps_closeTransport (link : Link) : link.Keeps link.closeTransport :=
  fun quiet => ⟨quiet, Outbound.buffered_shutdown⟩

theorem keeps_perform (link : Link) (act : Act) : link.Keeps (link.perform act) := by
  cases act with
  | write frame => exact link.keeps_write frame
  | requestClose reason => exact keeps_of_request rfl
  | closeTransport => exact link.keeps_closeTransport
  | _ => exact keeps_of_same rfl rfl

theorem Reaches.keeps {before after : Link} (reaches : before.Reaches True after) : before.Keeps after := by
  induction reaches with
  | refl => exact keeps_of_same rfl rfl
  | act _ act _ ih => exact ih.trans (keeps_perform _ act)

end Link

namespace Session

@[simp] theorem listener_returning (session : Session) (result : Result) :
    (session.returning result).listener = session.listener := rfl

@[simp] theorem listener_leave (session : Session) (result : Result) :
    (session.leave result).listener = session.listener := rfl

@[simp] theorem listener_startLeaving (session : Session) (result : Result) :
    (session.startLeaving result).listener = session.listener := by
  unfold startLeaving
  dsimp only
  split <;> rfl

@[simp] theorem listener_conclude (session : Session) (purpose : Purpose) (outcome : Outcome) :
    (session.conclude purpose outcome).listener = session.listener := by
  unfold conclude
  dsimp only
  split
  · rfl
  · exact listener_startLeaving session _
  · rfl

@[simp] theorem listener_await (session : Session) (purpose : Purpose) (body : Body) :
    (session.await purpose body).listener = session.listener := by
  unfold await
  split
  · rfl
  · exact listener_conclude _ purpose _

@[simp] theorem listener_start (session : Session) (request : Request) :
    (session.start request).listener = session.listener := by
  unfold start
  split
  · split <;> simp
  · rfl
  · split
    · split <;> rfl
    · rfl
  · rfl
  · split <;> simp
  · split <;> simp
  · simp
  · split <;> rfl

@[simp] theorem listener_resume (session : Session) :
    session.resume.listener = session.listener := by
  unfold resume
  split
  · split <;> simp
  · rfl
  · rfl
  · rfl

theorem listener_giveUp {session : Session} (staying : ∀ result, session.call ≠ .leaving result) :
    session.giveUp.listener = session.listener := by
  unfold giveUp
  split
  · exact listener_conclude _ _ _
  · rename_i result leaving
    exact absurd leaving (staying result)
  · rfl
  · rfl
  · rfl

theorem closeRequested_startLeaving (session : Session) (result : Result) :
    (session.startLeaving result).link.closeRequested = true := by
  unfold startLeaving
  dsimp only
  split <;> rfl

def Stays (before after : Session) : Prop :=
  before.link.Keeps after.link ∧
    (after.link.closeRequested = false →
      ∀ result, after.call = .leaving result → before.call = .leaving result)

theorem Stays.trans {first second third : Session} (before : first.Stays second)
    (after : second.Stays third) : first.Stays third := by
  refine ⟨before.1.trans after.1, fun quiet result leaving => ?_⟩
  exact before.2 (after.1 quiet).1 result (after.2 quiet result leaving)

theorem stays_of_call {before after : Session} (keeps : before.link.Keeps after.link)
    (call : ∀ result, after.call ≠ .leaving result) : before.Stays after :=
  ⟨keeps, fun _ result leaving => absurd leaving (call result)⟩

theorem stays_of_sameCall {before after : Session} (keeps : before.link.Keeps after.link)
    (call : after.call = before.call) : before.Stays after :=
  ⟨keeps, fun _ _ leaving => call ▸ leaving⟩

theorem stays_of_request {before after : Session} (request : after.link.closeRequested = true) :
    before.Stays after := by
  refine ⟨Link.keeps_of_request request, fun quiet => ?_⟩
  rw [request] at quiet
  cases quiet

theorem stays_returning (session : Session) (result : Result) :
    session.Stays (session.returning result) :=
  stays_of_call (Link.keeps_of_same rfl rfl) (fun _ => by simp [returning])

theorem stays_leave (session : Session) (result : Result) : session.Stays (session.leave result) :=
  stays_of_call (Link.keeps_of_same rfl rfl) (fun _ => by simp [leave])

theorem stays_startLeaving (session : Session) (result : Result) :
    session.Stays (session.startLeaving result) :=
  stays_of_request (closeRequested_startLeaving session result)

theorem stays_conclude (session : Session) (purpose : Purpose) (outcome : Outcome) :
    session.Stays (session.conclude purpose outcome) := by
  unfold conclude
  dsimp only
  split
  · exact stays_of_call (Link.keeps_of_same rfl rfl) (fun _ => by simp)
  · exact stays_startLeaving session _
  · exact stays_returning session _

theorem stays_await (session : Session) (purpose : Purpose) (body : Body) :
    session.Stays (session.await purpose body) := by
  have sent := (session.link.reaches_send body).keeps
  unfold await
  split
  · rename_i handle link written
    rw [written] at sent
    exact stays_of_call sent (fun _ => by simp)
  · rename_i error link failed
    rw [failed] at sent
    exact (stays_of_sameCall sent rfl : session.Stays { session with link }).trans
      (stays_conclude _ purpose _)

theorem stays_start (session : Session) (request : Request) :
    session.Stays (session.start request) := by
  cases request with
  | bind credentials =>
      simp only [start]
      split
      · exact stays_await session _ _
      · exact stays_returning session _
  | submit source destination segment wantsReceipt =>
      have sent := (session.link.reaches_submit source destination segment wantsReceipt).keeps
      exact stays_of_call sent (fun _ => by simp [start, returning])
  | sendMessage source destination text =>
      simp only [start]
      split
      · split
        · exact stays_of_call (Link.keeps_of_same rfl rfl) (fun _ => by simp [returning])
        · exact stays_of_call (Link.reaches_submitAll _ source destination _ _).keeps
            (fun _ => by simp [returning])
      · exact stays_returning session _
  | messageId handle => exact stays_of_call (Link.keeps_of_same rfl rfl) (fun _ => by simp [start])
  | enquireLink =>
      simp only [start]
      split
      · exact stays_returning session _
      · exact stays_await session _ _
  | unbind =>
      simp only [start]
      split
      · exact (stays_of_sameCall (Link.keeps_of_same rfl rfl) rfl :
          session.Stays { session with link := session.link.setState .unbound }).trans
          (stays_await _ _ _)
      · exact stays_startLeaving session _
  | disconnect => exact stays_startLeaving session _
  | waitClosed =>
      simp only [start]
      split
      · exact stays_of_call (Link.keeps_of_same rfl rfl) (fun _ => by simp)
      · exact stays_of_call (Link.keeps_of_same rfl rfl) (fun _ => by simp [returning])

theorem stays_resume (session : Session) : session.Stays session.resume := by
  unfold resume
  split
  · split
    · exact stays_conclude session _ _
    · exact stays_of_sameCall (Link.keeps_of_same rfl rfl) rfl
  · exact stays_leave session _
  · exact stays_of_call (Link.keeps_of_same rfl rfl) (fun _ => by simp [returning])
  · exact stays_of_sameCall (Link.keeps_of_same rfl rfl) rfl

theorem stays_giveUp (session : Session) : session.Stays session.giveUp := by
  unfold giveUp
  split
  · exact (stays_of_sameCall (Link.keeps_of_same rfl rfl) rfl).trans (stays_conclude _ _ _)
  · exact stays_leave session _
  · exact stays_of_sameCall (Link.keeps_of_same rfl rfl) rfl
  · exact stays_of_sameCall (Link.keeps_of_same rfl rfl) rfl
  · exact stays_of_sameCall (Link.keeps_of_same rfl rfl) rfl

theorem stays_move (session : Session) {move : Move} (other : move.isListening = false) :
    session.Stays (session.move move) := by
  have unchanged : session.Stays session := stays_of_sameCall (Link.keeps_of_same rfl rfl) rfl
  cases move with
  | start request =>
      simp only [Session.move]
      split
      · exact unchanged
      · exact stays_start session request
  | resume => exact stays_resume session
  | giveUp => exact stays_giveUp session
  | drop =>
      simp only [Session.move]
      split
      · exact stays_of_call (Link.keeps_of_same rfl rfl) (fun _ => by simp)
      · exact unchanged
  | ask =>
      simp only [Session.move]
      split
      · exact stays_of_sameCall (Pinger.reaches_ask _ _).keeps rfl
      · exact unchanged
  | learn =>
      simp only [Session.move]
      split
      · split
        · exact stays_of_sameCall (Pinger.reaches_learn _ _ _).keeps rfl
        · exact unchanged
      · exact unchanged
  | miss =>
      simp only [Session.move]
      split
      · exact stays_of_sameCall ((Link.keeps_of_same rfl rfl).trans (Pinger.reaches_learn _ _ _).keeps) rfl
      · exact unchanged
  | age time => exact stays_of_sameCall (Link.keeps_of_same rfl rfl) rfl
  | hear event => cases other
  | handled ending => cases other
  | stop => cases other
  | sweep => cases other

theorem listener_move {session : Session} {move : Move} (other : move.isListening = false)
    (staying : move = .giveUp → ∀ result, session.call ≠ .leaving result) :
    (session.move move).listener = session.listener := by
  cases move with
  | start request =>
      simp only [Session.move]
      split
      · rfl
      · exact listener_start session request
  | resume => exact listener_resume session
  | giveUp => exact listener_giveUp (staying rfl)
  | drop =>
      simp only [Session.move]
      split <;> rfl
  | ask =>
      simp only [Session.move]
      split <;> rfl
  | learn =>
      simp only [Session.move]
      split
      · split <;> rfl
      · rfl
  | miss =>
      simp only [Session.move]
      split <;> rfl
  | age time => rfl
  | hear event => cases other
  | handled ending => cases other
  | stop => cases other
  | sweep => cases other

theorem move_of_ended {session : Session} {outcome : Except SessionError Unit}
    (ended : session.listener = .ended outcome) {move : Move} (listening : move.isListening = true) :
    session.move move = session := by
  cases move with
  | hear event => simp only [Session.move, ended]
  | handled ending => simp only [Session.move, ended]
  | stop => simp only [Session.move, ended]
  | sweep => simp only [Session.move, ended]
  | _ => cases listening

theorem listener_move_of_ended {session : Session} {outcome : Except SessionError Unit}
    (ended : session.listener = .ended outcome) (move : Move) :
    (session.move move).listener = .ended outcome := by
  cases listening : move.isListening with
  | true => rw [move_of_ended ended listening, ended]
  | false =>
      by_cases waits : move = .giveUp
      · subst waits
        simp only [Session.move, giveUp]
        split
        · rw [listener_conclude]
          exact ended
        · simp only [listener_leave, ended]
        · exact ended
        · exact ended
        · exact ended
      · rw [listener_move listening (fun same => absurd same waits), ended]

end Session

end Smpp
