import Smpp.Proofs.Session.Tasks
import Smpp.Proofs.Stream.Emission

/-!
What the tasks of a session signal to each other: the published state and the request to close. Sending
changes neither, unless the transport fails; then the session is broken off, and nothing is written any
more. What else a move can signal is said once, in `Session.Signals`.
-/

namespace Smpp

namespace Link

structure Alike (first second : Link) : Prop where
  state : second.state = first.state
  closeReason : second.closeReason = first.closeReason
  closeRequested : second.closeRequested = first.closeRequested

theorem Alike.refl (link : Link) : link.Alike link := ⟨rfl, rfl, rfl⟩

theorem Alike.trans {first second third : Link} (before : first.Alike second) (after : second.Alike third) :
    first.Alike third :=
  ⟨after.state.trans before.state, after.closeReason.trans before.closeReason,
    after.closeRequested.trans before.closeRequested⟩

def breakOff (link : Link) : Link := (link.setState .disconnected).requestClose (some .connectionLost)

theorem Alike.breakOff {first second : Link} (alike : first.Alike second) :
    first.breakOff.Alike second.breakOff :=
  ⟨rfl, by simp only [Link.breakOff, requestClose, explain, wakeListener, setState, alike.closeReason], rfl⟩

theorem breakOff_twice (link : Link) : link.breakOff.Alike link.breakOff.breakOff := by
  refine ⟨rfl, ?_, rfl⟩
  simp only [breakOff, requestClose, explain, wakeListener, setState]
  cases link.closeReason <;> rfl

structure Sends (before after : Link) : Prop where
  signals : before.Alike after ∨ before.breakOff.Alike after ∧ after.writer.IsMute
  mute : before.writer.IsMute → after.writer.IsMute

theorem sends_of_same {before after : Link} (alike : before.Alike after)
    (writer : after.writer = before.writer) : before.Sends after where
  signals := Or.inl alike
  mute mute := by rwa [writer]

theorem Sends.refl (link : Link) : link.Sends link := sends_of_same (.refl link) rfl

theorem Sends.trans {first second third : Link} (before : first.Sends second) (after : second.Sends third) :
    first.Sends third where
  signals := by
    rcases before.signals with quiet | ⟨broken, mute⟩
    · rcases after.signals with alike | ⟨broken, mute⟩
      · exact Or.inl (quiet.trans alike)
      · exact Or.inr ⟨quiet.breakOff.trans broken, mute⟩
    · rcases after.signals with alike | ⟨again, _⟩
      · exact Or.inr ⟨broken.trans alike, after.mute mute⟩
      · exact Or.inr ⟨(first.breakOff_twice.trans broken.breakOff).trans again, after.mute mute⟩
  mute mute := after.mute (before.mute mute)

theorem sends_write (link : Link) (frame : Frame) : link.Sends (link.write frame).2 := by
  rcases link.write_cases frame with
    ⟨writer, written, same⟩ | ⟨error, _, same⟩ | ⟨reason, writer, refused, same⟩
  · rw [same]
    exact ⟨Or.inl ⟨rfl, rfl, rfl⟩, fun mute => absurd written (Outbound.not_written_of_mute mute)⟩
  · rw [same]
    exact .refl link
  · have mute : writer.IsMute := by
      have failed : (link.writer.perform (.write frame)).2.IsMute :=
        Outbound.mute_of_failure (congrArg Prod.fst refused)
      rwa [Outbound.perform, refused] at failed
    rw [same]
    exact ⟨Or.inr ⟨⟨rfl, rfl, rfl⟩, mute⟩, fun _ => mute⟩

theorem sends_kept (link : Link) : KeptBySending link.Sends where
  write other frame earlier := earlier.trans (other.sends_write frame)
  register _ _ earlier := earlier.trans (sends_of_same ⟨rfl, rfl, rfl⟩ rfl)
  withdraw _ _ earlier := earlier.trans (sends_of_same ⟨rfl, rfl, rfl⟩ rfl)

theorem sends_of_send {link after : Link} {body : Body} {sent : Except SessionError PendingHandle}
    (sending : link.send body = (sent, after)) : link.Sends after := by
  have sends := link.sends_kept.send (.refl link) body
  rwa [sending] at sends

theorem sends_giveUp (link : Link) (handle : PendingHandle) : link.Sends (link.giveUp handle).2 :=
  sends_of_same ⟨rfl, rfl, rfl⟩ rfl

theorem giveUp_of_ok {link : Link} {handle : PendingHandle} {frame : Frame}
    (answered : (link.giveUp handle).1 = .ok frame) :
    link.pending.outcome? handle = some (.ok frame) ∧ (link.giveUp handle).2 = link := by
  unfold giveUp PendingTable.giveUp at answered ⊢
  cases resolved : link.pending.outcome? handle with
  | some outcome =>
      rw [resolved] at answered
      exact ⟨congrArg some answered, rfl⟩
  | none =>
      rw [resolved] at answered
      cases answered

theorem isClosed_closeTransport (link : Link) : link.closeTransport.writer.isClosed = true :=
  link.writer.isClosed_shutdown

end Link

def Call.isDeciding : Call → Bool
  | awaiting .bind _ | awaiting .unbind _ | leaving _ => true
  | none | awaiting .messageId _ | awaiting .enquireLink _ | joining | returned _ => false

theorem Call.ne_of_idle {call deciding : Call} (idle : call.isDeciding = false)
    (decides : deciding.isDeciding = true) : call ≠ deciding := by
  rintro rfl
  rw [idle] at decides
  cases decides

theorem Call.not_parting_of_idle {call : Call} (idle : call.isDeciding = false) :
    ¬ call.isParting = true := by
  intro parting
  cases call with
  | awaiting purpose handle =>
      cases purpose with
      | bind | unbind => cases idle
      | messageId | enquireLink => cases parting
  | leaving result => cases idle
  | none | joining | returned _ => cases parting

def Listener.outcome? : Listener → Option (Except SessionError Unit)
  | ended outcome => some outcome
  | reading | handling .. => none

namespace Session

/-- The listener is asked to stop and the transport is closed. Only when somebody else waits for the
listener the session is over at once. -/
structure Departs (before : Link) (after : Session) : Prop where
  closed : after.link.writer.isClosed = true
  parting :
    (∃ result, after.call = .leaving result) ∧ (before.requestClose none).Alike after.link ∨
    after.call.isDeciding = false ∧ ((before.requestClose none).setState .disconnected).Alike after.link

def AnswersUnbind (session : Session) (move : Move) : Prop :=
  ∃ handler frame ending, session.listener = .handling handler frame ∧ frame.body = .unbind ∧
    move = .handled ending ∧
    (session.link.write (Listener.answerTo frame ending.status)).1 = .ok ()

/-- How the listener comes to an end, and to which one: by what it reads, by an answer that it cannot
write, by an unbind that it has answered, or because it has been asked to. -/
inductive Ends (session : Session) : Move → Except SessionError Unit → Prop
  | desync (reading : session.listener = .reading) (error : CodecError) :
      Ends session (.hear (.desync error)) (.error (.protocolViolation error))
  | closed (reading : session.listener = .reading) :
      Ends session (.hear .closed) (Listener.closing session.link.state)
  | cutOff (reading : session.listener = .reading) (octets : Nat) :
      Ends session (.hear (.cutOff octets)) (.error .connectionLost)
  | rejecting {error : SessionError} (reading : session.listener = .reading) (header : Header)
      (failure : CodecError) (request : header.commandId.isResponse = false)
      (failed : (session.link.write ⟨failure.status, header.sequence, .genericNack⟩).1 = .error error) :
      Ends session (.hear (.malformed header failure)) (.error .connectionLost)
  | answering {handler : Handler} {frame : Frame} {error : SessionError}
      (handling : session.listener = .handling handler frame)
      (ending : HandlerEnd)
      (failed : (session.link.write (Listener.answerTo frame ending.status)).1 = .error error) :
      Ends session (.handled ending) (.error .connectionLost)
  | answered {move : Move} (answers : session.AnswersUnbind move) : Ends session move (.ok ())
  | stopped (reading : session.listener = .reading) (asked : session.link.closeRequested = true) :
      Ends session .stop session.link.takeClose.1

inductive Signals (session : Session) : Move → Session → Prop
  | sends {move : Move} {after : Session} (sends : session.link.Sends after.link)
      (listener : after.listener.outcome? = session.listener.outcome?)
      (call : after.call = session.call ∨ after.call.isDeciding = false) : Signals session move after
  | binds {credentials : Credentials} {handle : PendingHandle} {link : Link}
      (free : session.call.isUnderWay = false) (connected : session.link.state = .connected)
      (sent : session.link.send (.bindTransceiver credentials.request) = (.ok handle, link)) :
      Signals session (.start (.bind credentials)) { session with link, call := .awaiting .bind handle }
  | accepts {move : Move} {after : Session} {handle : PendingHandle} {frame : Frame} {answer : Answer}
      (going : move = .resume ∨ move = .giveUp) (waiting : session.call = .awaiting .bind handle)
      (resolved : session.link.pending.outcome? handle = some (.ok frame))
      (accepted : Purpose.bind.judge frame = .ok answer)
      (link : after.link = session.link.setState .bound) (listener : after.listener = session.listener)
      (call : after.call.isDeciding = false) : Signals session move after
  | unbinds {after : Session} {handle : PendingHandle} (free : session.call.isUnderWay = false)
      (bound : session.link.state = .bound)
      (sends : (session.link.setState .unbound).Sends after.link)
      (listener : after.listener = session.listener) (call : after.call = .awaiting .unbind handle) :
      Signals session (.start .unbind) after
  | departs {move : Move} {middle : Link} {after : Session}
      (leaving : session.Leaves move ∨ ∃ handle, session.call = .awaiting .unbind handle)
      (before : session.link.Sends middle ∨
        session.link.state = .bound ∧ (session.link.setState .unbound).Sends middle)
      (departs : Departs middle after) (listener : after.listener = session.listener) :
      Signals session move after
  | left {move : Move} {after : Session} {result : Result} {outcome : Except SessionError Unit}
      (leaving : session.call = .leaving result)
      (link : (session.link.setState .disconnected).Alike after.link)
      (writer : after.link.writer = session.link.writer) (listener : after.listener = .ended outcome)
      (ending : session.listener.outcome? = some outcome ∨
        session.listener.outcome? = none ∧ outcome = .error .connectionLost)
      (call : after.call.isDeciding = false) : Signals session move after
  | alarms {move : Move} {middle : Link} {after : Session} (sends : session.link.Sends middle)
      (link : after.link = middle.requestClose (some .connectionLost))
      (listener : after.listener = session.listener) (call : after.call = session.call) :
      Signals session move after
  | ends {move : Move} {after : Session} {outcome : Except SessionError Unit}
      (going : session.listener.outcome? = none) (ends : session.Ends move outcome)
      (state : after.link.state = .disconnected) (closed : after.link.writer.isClosed = true)
      (listener : after.listener = .ended outcome) (call : after.call = session.call) :
      Signals session move after

section

variable {session : Session}

theorem signals_nothing (session : Session) (move : Move) : session.Signals move session :=
  .sends (.refl _) rfl (Or.inl rfl)

theorem departs_startLeaving (session : Session) (result : Result) :
    Departs session.link (session.startLeaving result) := by
  have closed := (session.link.requestClose none).isClosed_closeTransport
  unfold startLeaving
  dsimp only
  split
  · exact ⟨closed, Or.inl ⟨⟨result, rfl⟩, rfl, rfl, rfl⟩⟩
  · exact ⟨closed, Or.inr ⟨rfl, rfl, rfl, rfl⟩⟩

theorem conclude_cases (session : Session) (purpose : Purpose) (outcome : Outcome) :
    (∃ frame answer, purpose = .bind ∧ outcome = .ok frame ∧ Purpose.bind.judge frame = .ok answer ∧
      session.conclude purpose outcome =
        { session with
          link := session.link.setState .bound
          pinger := session.pinger.start
          call := .returned (.ok answer) }) ∨
    (∃ result, purpose = .unbind ∧ session.conclude purpose outcome = session.startLeaving result) ∨
    ∃ result, purpose ≠ .unbind ∧ session.conclude purpose outcome = session.returning result := by
  unfold conclude
  dsimp only
  split
  · rename_i answer judged
    cases outcome with
    | ok frame => exact Or.inl ⟨frame, answer, rfl, rfl, judged, by rw [judged]⟩
    | error error => cases judged
  · exact Or.inr (Or.inl ⟨_, rfl, rfl⟩)
  · rename_i notUnbind _
    exact Or.inr (Or.inr ⟨_, fun unbind => notUnbind unbind, rfl⟩)

theorem await_cases (session : Session) (purpose : Purpose) (body : Body) :
    (∃ handle link, session.link.send body = (.ok handle, link) ∧
      session.await purpose body = { session with link, call := .awaiting purpose handle }) ∨
    ∃ result link, session.link.Sends link ∧
      (purpose ≠ .unbind ∧ session.await purpose body = { session with link }.returning result ∨
        purpose = .unbind ∧ session.await purpose body = { session with link }.startLeaving result) := by
  unfold await
  split
  · rename_i handle link sent
    exact Or.inl ⟨handle, link, sent, rfl⟩
  · rename_i error link failed
    have sends := Link.sends_of_send failed
    rcases ({ session with link } : Session).conclude_cases purpose (.error error) with
      ⟨_, _, _, impossible, _⟩ | ⟨result, unbind, same⟩ | ⟨result, other, same⟩
    · cases impossible
    · exact Or.inr ⟨result, link, sends, Or.inr ⟨unbind, same⟩⟩
    · exact Or.inr ⟨result, link, sends, Or.inl ⟨other, same⟩⟩

theorem signals_returning {link : Link} {move : Move} (sends : session.link.Sends link)
    (result : Result) : session.Signals move ({ session with link }.returning result) :=
  .sends sends rfl (Or.inr rfl)

theorem signals_start (free : session.call.isUnderWay = false) (request : Request) :
    session.Signals (.start request) (session.start request) := by
  cases request with
  | bind credentials =>
      simp only [start]
      split
      · rename_i connected
        rcases session.await_cases .bind (.bindTransceiver credentials.request) with
          ⟨handle, link, sent, same⟩ | ⟨result, link, sends, ⟨_, same⟩ | ⟨impossible, _⟩⟩
        · rw [same]
          exact .binds free connected sent
        · rw [same]
          exact signals_returning sends result
        · cases impossible
      · exact signals_returning (.refl _) _
  | submit source destination segment wantsReceipt =>
      have sends := session.link.sends_kept.submit (.refl _) source destination segment wantsReceipt
      exact signals_returning sends _
  | sendMessage source destination text =>
      simp only [start]
      split
      · split
        · exact .sends (.refl _) rfl (Or.inr rfl)
        · exact .sends (session.link.sends_kept.submitAll (.refl _) source destination _ _) rfl (Or.inr rfl)
      · exact signals_returning (.refl _) _
  | messageId handle => exact .sends (.refl _) rfl (Or.inr rfl)
  | enquireLink =>
      simp only [start]
      split
      · exact signals_returning (.refl _) _
      · rcases session.await_cases .enquireLink .enquireLink with
          ⟨handle, link, sent, same⟩ | ⟨result, link, sends, ⟨_, same⟩ | ⟨impossible, _⟩⟩
        · rw [same]
          exact .sends (Link.sends_of_send sent) rfl (Or.inr rfl)
        · rw [same]
          exact signals_returning sends result
        · cases impossible
  | unbind =>
      have leaves : session.Leaves (.start .unbind) := ⟨free, Or.inl rfl⟩
      simp only [start]
      split
      · rename_i bound
        rcases ({ session with link := session.link.setState .unbound } : Session).await_cases
            .unbind .unbind with
          ⟨handle, link, sent, same⟩ | ⟨result, link, sends, ⟨impossible, _⟩ | ⟨_, same⟩⟩
        · rw [same]
          exact .unbinds free bound (Link.sends_of_send sent) rfl rfl
        · exact absurd rfl impossible
        · have departs := departs_startLeaving ({ session with link } : Session) result
          rw [same]
          exact .departs (Or.inl leaves) (Or.inr ⟨bound, sends⟩) departs (listener_startLeaving _ _)
      · exact .departs (Or.inl leaves) (Or.inl (.refl _)) (departs_startLeaving _ _)
          (listener_startLeaving _ _)
  | disconnect =>
      exact .departs (Or.inl ⟨free, Or.inr rfl⟩) (Or.inl (.refl _)) (departs_startLeaving _ _)
        (listener_startLeaving _ _)
  | waitClosed =>
      simp only [start]
      split
      · exact .sends (.refl _) rfl (Or.inr rfl)
      · exact .sends (.refl _) rfl (Or.inr rfl)

theorem signals_conclude {purpose : Purpose} {handle : PendingHandle} {move : Move} {link : Link}
    {outcome : Outcome} (going : move = .resume ∨ move = .giveUp)
    (waiting : session.call = .awaiting purpose handle) (sends : session.link.Sends link)
    (answered : ∀ frame, outcome = .ok frame →
      session.link.pending.outcome? handle = some (.ok frame) ∧ link = session.link) :
    session.Signals move (({ session with link } : Session).conclude purpose outcome) := by
  rcases ({ session with link } : Session).conclude_cases purpose outcome with
    ⟨frame, answer, rfl, rfl, accepted, same⟩ | ⟨result, rfl, same⟩ | ⟨result, _, same⟩
  · obtain ⟨resolved, rfl⟩ := answered frame rfl
    rw [same]
    exact .accepts going waiting resolved accepted rfl rfl rfl
  · have departs := departs_startLeaving ({ session with link } : Session) result
    rw [same]
    exact .departs (Or.inr ⟨handle, waiting⟩) (Or.inl sends) departs (listener_startLeaving _ _)
  · rw [same]
    exact signals_returning sends result

theorem signals_resume (session : Session) : session.Signals .resume session.resume := by
  unfold resume
  split
  · rename_i purpose handle waiting
    split
    · rename_i outcome resolved
      refine signals_conclude (Or.inl rfl) waiting (.refl _) ?_
      rintro frame rfl
      exact ⟨resolved, rfl⟩
    · exact session.signals_nothing _
  · rename_i result outcome leaving ended
    exact .left leaving ⟨rfl, rfl, rfl⟩ rfl ended (Or.inl (by rw [ended]; rfl)) rfl
  · exact .sends (.refl _) rfl (Or.inr rfl)
  · exact session.signals_nothing _

theorem signals_giveUp (session : Session) : session.Signals .giveUp session.giveUp := by
  unfold giveUp
  split
  · rename_i purpose handle waiting
    refine signals_conclude (Or.inr rfl) waiting (session.link.sends_giveUp handle) ?_
    exact fun _ answered => Link.giveUp_of_ok answered
  · rename_i result leaving
    refine .left leaving ⟨rfl, rfl, rfl⟩ rfl rfl ?_ rfl
    cases session.listener with
    | ended outcome => exact Or.inl rfl
    | reading => exact Or.inr ⟨rfl, rfl⟩
    | handling handler frame => exact Or.inr ⟨rfl, rfl⟩
  · exact session.signals_nothing _
  · exact session.signals_nothing _
  · exact session.signals_nothing _

theorem state_finish (link : Link) (outcome : Except SessionError Unit) :
    (Listener.finish link outcome).1.state = .disconnected ∧
      (Listener.finish link outcome).1.writer.isClosed = true :=
  ⟨rfl, (link.failAll.setState .disconnected).isClosed_closeTransport⟩

theorem signals_finish {move : Move} {link : Link} {outcome : Except SessionError Unit}
    (going : session.listener.outcome? = none) (ends : session.Ends move outcome) :
    session.Signals move (session.withListener (Listener.finish link outcome)) :=
  .ends going ends (state_finish link outcome).1 (state_finish link outcome).2 rfl rfl

theorem signals_hear (reading : session.listener = .reading) (event : Inbound.Event) :
    session.Signals (.hear event) (session.withListener (Listener.hear session.link event)) := by
  have going : session.listener.outcome? = none := by rw [reading]; rfl
  cases event with
  | frame frame =>
      have quiet : session.link.Alike (Listener.onFrame session.link frame).1 ∧
          (Listener.onFrame session.link frame).1.writer = session.link.writer ∧
          (Listener.onFrame session.link frame).2.outcome? = none := by
        unfold Listener.onFrame
        split
        · dsimp only
          split <;> exact ⟨⟨rfl, rfl, rfl⟩, rfl, rfl⟩
        · exact ⟨⟨rfl, rfl, rfl⟩, rfl, rfl⟩
      obtain ⟨alike, writer, goesOn⟩ := quiet
      exact .sends (Link.sends_of_same alike writer) (goesOn.trans going.symm) (Or.inl rfl)
  | malformed header failure =>
      simp only [Listener.hear, Listener.onMalformed]
      split
      · exact .sends (Link.sends_of_same ⟨rfl, rfl, rfl⟩ rfl) going.symm (Or.inl rfl)
      · rename_i request
        have sends := session.link.sends_write ⟨failure.status, header.sequence, .genericNack⟩
        unfold Listener.reply
        split
        · rename_i written
          rw [written] at sends
          exact .sends sends going.symm (Or.inl rfl)
        · rename_i error link failed
          exact signals_finish going (.rejecting reading header failure (by simpa using request)
            (congrArg Prod.fst failed))
  | desync error => exact signals_finish going (.desync reading error)
  | closed => exact signals_finish going (.closed reading)
  | cutOff octets => exact signals_finish going (.cutOff reading octets)

theorem signals_handled {handler : Handler} {frame : Frame}
    (handling : session.listener = .handling handler frame)
    (ending : HandlerEnd) :
    session.Signals (.handled ending)
      (session.withListener (Listener.handled session.link frame ending)) := by
  have going : session.listener.outcome? = none := by rw [handling]; rfl
  have sends := session.link.sends_write (Listener.answerTo frame ending.status)
  unfold Listener.handled
  split
  · exact .sends (.refl _) going.symm (Or.inl rfl)
  · split
    · rename_i error link failed
      exact signals_finish going (.answering handling ending (congrArg Prod.fst failed))
    · rename_i link written
      rw [written] at sends
      split
      · rename_i unbind
        exact signals_finish going
          (.answered ⟨handler, frame, ending, handling, unbind, rfl, congrArg Prod.fst written⟩)
      · exact .sends sends going.symm (Or.inl rfl)

theorem signals_stop (reading : session.listener = .reading) :
    session.Signals .stop (session.withListener (Listener.stop session.link)) := by
  have going : session.listener.outcome? = none := by rw [reading]; rfl
  unfold Listener.stop
  split
  · rename_i asked
    exact signals_finish going (.stopped reading asked)
  · exact .sends (.refl _) going.symm (Or.inl rfl)

theorem learn_cases (link : Link) (pinger : Pinger) (outcome : Outcome) :
    (Pinger.learn link pinger outcome).1 = link ∨
      (Pinger.learn link pinger outcome).1 = link.requestClose (some .connectionLost) := by
  unfold Pinger.learn
  split
  · exact Or.inl rfl
  · exact Or.inr rfl
  · exact Or.inl rfl

theorem signals_learn {link : Link} {move : Move} (sends : session.link.Sends link) (pinger : Pinger)
    (outcome : Outcome) :
    session.Signals move (session.withPinger (Pinger.learn link pinger outcome)) := by
  rcases learn_cases link pinger outcome with same | same
  · refine .sends ?_ rfl (Or.inl rfl)
    rw [withPinger, same]
    exact sends
  · exact .alarms sends same rfl rfl

theorem signals_ask (session : Session) (pinger : Pinger) :
    session.Signals .ask (session.withPinger (Pinger.ask session.link pinger)) := by
  unfold Pinger.ask
  split
  · dsimp only
    split
    · rename_i sent
      exact .sends (Link.sends_of_send sent) rfl (Or.inl rfl)
    · rename_i failed
      exact signals_learn (Link.sends_of_send failed) _ _
  · exact .sends (.refl _) rfl (Or.inl rfl)

theorem signals_move (session : Session) (move : Move) : session.Signals move (session.move move) := by
  cases move with
  | start request =>
      simp only [Session.move]
      split
      · exact session.signals_nothing _
      · rename_i free
        exact signals_start (by simpa using free) request
  | resume => exact session.signals_resume
  | giveUp => exact session.signals_giveUp
  | drop =>
      simp only [Session.move]
      split
      · exact .sends (.refl _) rfl (Or.inr rfl)
      · exact session.signals_nothing _
  | hear event =>
      simp only [Session.move]
      split
      · rename_i reading
        exact signals_hear reading event
      · exact session.signals_nothing _
  | handled ending =>
      simp only [Session.move]
      split
      · rename_i handler frame handling
        exact signals_handled handling ending
      · exact session.signals_nothing _
  | stop =>
      simp only [Session.move]
      split
      · rename_i reading
        exact signals_stop reading
      · exact session.signals_nothing _
  | sweep =>
      simp only [Session.move]
      split
      · exact .sends (Link.sends_of_same ⟨rfl, rfl, rfl⟩ rfl) rfl (Or.inl rfl)
      · exact session.signals_nothing _
  | ask =>
      simp only [Session.move]
      split
      · exact session.signals_ask _
      · exact session.signals_nothing _
  | learn =>
      simp only [Session.move]
      split
      · split
        · exact signals_learn (.refl _) _ _
        · exact session.signals_nothing _
      · exact session.signals_nothing _
  | miss =>
      simp only [Session.move]
      split
      · exact signals_learn (session.link.sends_giveUp _) _ _
      · exact session.signals_nothing _
  | age time => exact .sends (Link.sends_of_same ⟨rfl, rfl, rfl⟩ rfl) rfl (Or.inl rfl)

theorem Signals.isParting {move : Move} {after : Session} (signals : session.Signals move after)
    (parting : after.call.isParting = true) : session.Leaves move ∨ session.call.isParting = true := by
  cases signals with
  | sends _ _ call =>
      rcases call with same | idle
      · exact Or.inr (same ▸ parting)
      · exact absurd parting (Call.not_parting_of_idle idle)
  | binds => cases parting
  | accepts _ _ _ _ _ _ idle => exact absurd parting (Call.not_parting_of_idle idle)
  | unbinds free => exact Or.inl ⟨free, Or.inl rfl⟩
  | departs leaving =>
      rcases leaving with leaves | ⟨handle, waiting⟩
      · exact Or.inl leaves
      · rw [waiting]
        exact Or.inr rfl
  | left _ _ _ _ _ idle => exact absurd parting (Call.not_parting_of_idle idle)
  | alarms _ _ _ call => exact Or.inr (call ▸ parting)
  | ends _ _ _ _ _ call => exact Or.inr (call ▸ parting)

theorem Signals.end_cases {move : Move} {after : Session}
    {outcome : Except SessionError Unit} (signals : session.Signals move after)
    (going : session.listener.outcome? = none) (ended : after.listener = .ended outcome) :
    session.Ends move outcome ∨
      outcome = .error .connectionLost ∧ ∃ result, session.call = .leaving result := by
  have unchanged : after.listener.outcome? ≠ session.listener.outcome? := by
    rw [ended, going]
    exact Option.some_ne_none outcome
  cases signals with
  | sends _ listener _ => exact absurd listener unchanged
  | binds => exact absurd rfl unchanged
  | accepts _ _ _ _ _ listener _ => exact absurd (congrArg _ listener) unchanged
  | unbinds _ _ _ listener _ => exact absurd (congrArg _ listener) unchanged
  | departs _ _ _ listener => exact absurd (congrArg _ listener) unchanged
  | left leaving _ _ listener ending _ =>
      rw [ended] at listener
      cases listener
      rcases ending with impossible | ⟨_, lost⟩
      · rw [going] at impossible
        cases impossible
      · exact Or.inr ⟨lost, _, leaving⟩
  | alarms _ _ listener _ => exact absurd (congrArg _ listener) unchanged
  | ends _ ends _ _ listener _ =>
      rw [ended] at listener
      cases listener
      exact Or.inl ends

end

def Happens (event : Session → Move → Prop) (session : Session) : List Move → Prop
  | [] => False
  | move :: moves => event session move ∨ Happens event (session.move move) moves

theorem happens_append {session : Session} {event : Session → Move → Prop} {first second : List Move} :
    session.Happens event (first ++ second) ↔
      session.Happens event first ∨ (session.run first).Happens event second := by
  induction first generalizing session with
  | nil =>
      constructor
      · exact Or.inr
      · rintro (impossible | happens)
        · exact impossible.elim
        · exact happens
  | cons move moves ih =>
      rw [List.cons_append, Happens, Happens, ih, or_assoc]
      rfl

end Session

end Smpp
