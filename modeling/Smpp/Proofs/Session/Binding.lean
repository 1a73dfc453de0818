import Smpp.Proofs.Session.Waiting

/-!
How a session is bound. As long as the call waits for its answer there is no keep-alive, and nobody but the
listener acts on the session, so that a listener which goes on leaves it connected. A bind that fails then
leaves nothing behind, and another one may follow it.
-/

namespace Smpp

theorem SessionState.not_leads_connected (state : SessionState) : ¬ state.Leads .connected := nofun

namespace Link

theorem state_of_unsent {link after : Link} {body : Body} {error : SessionError}
    (failed : link.send body = (.error error, after)) (mild : error.isFatal = false) :
    after.state = link.state := by
  unfold send transmit at failed
  dsimp only at failed
  rcases (link.register body.commandId).2.write_cases
      { sequence := (link.register body.commandId).1.sequence, body } with
    ⟨writer, _, same⟩ | ⟨cause, _, same⟩ | ⟨reason, writer, _, same⟩
  · rw [same] at failed
    cases failed
  · rw [same] at failed
    cases failed
    rfl
  · rw [same] at failed
    cases failed
    cases mild

end Link

namespace Listener

variable {link : Link}

theorem state_reply {answer : Frame} (going : (reply link answer).2.outcome? = none) :
    (reply link answer).1.state = link.state := by
  unfold reply at going ⊢
  rcases link.write_cases answer with ⟨writer, _, same⟩ | ⟨cause, _, same⟩ | ⟨reason, writer, _, same⟩
  · rw [same]
  · rw [same] at going
    cases going
  · rw [same] at going
    cases going

theorem state_hear {event : Inbound.Event} (going : (hear link event).2.outcome? = none) :
    (hear link event).1.state = link.state := by
  cases event with
  | frame frame =>
      simp only [hear, onFrame]
      split
      · split
        · rfl
        · rfl
      · rfl
  | malformed header error =>
      simp only [hear, onMalformed] at going ⊢
      split
      · rfl
      · rename_i request
        rw [if_neg request] at going
        exact state_reply going
  | desync error => cases going
  | closed => cases going
  | cutOff octets => cases going

theorem state_handled {frame : Frame} {ending : HandlerEnd}
    (going : (handled link frame ending).2.outcome? = none) :
    (handled link frame ending).1.state = link.state := by
  unfold handled at going ⊢
  split at going
  · rename_i response
    rw [if_pos response]
  · rename_i request
    rw [if_neg request]
    rcases link.write_cases (answerTo frame ending.status) with
      ⟨writer, _, same⟩ | ⟨cause, _, same⟩ | ⟨reason, writer, _, same⟩
    · rw [same] at going ⊢
      dsimp only at going ⊢
      split at going
      · cases going
      · rename_i other
        rw [if_neg other]
    · rw [same] at going
      cases going
    · rw [same] at going
      cases going

theorem state_stop (going : (stop link).2.outcome? = none) : (stop link).1.state = link.state := by
  unfold stop at going ⊢
  split at going
  · cases going
  · rename_i unasked
    rw [if_neg unasked]

theorem reading_of_handled {frame : Frame} (opened : link.writer.isClosed = false)
    (unlimited : link.writer.sink.room = none) (other : frame.body ≠ .unbind) (ending : HandlerEnd) :
    ∃ writer, handled link frame ending = ({ link with writer }, .reading) := by
  unfold handled
  split
  · exact ⟨link.writer, rfl⟩
  · obtain ⟨writer, written, _⟩ :=
      Outbound.written_of_unlimited opened unlimited (Session.answers_answerTo frame ending).encodable
    rw [Link.write_of_accepted written]
    exact ⟨writer, rfl⟩

end Listener

def Pinger.Spares (before after : Pinger) : Prop := after = before ∨ after = before.callOff

theorem Pinger.Spares.off {before after : Pinger} (spares : before.Spares after) (off : before.phase = .off) :
    after.phase = .off := by
  rcases spares with rfl | rfl
  · exact off
  · rfl

namespace Session

variable {session start : Session} {move : Move}

theorem spares_startLeaving (session : Session) (result : Result) :
    session.pinger.Spares (session.startLeaving result).pinger := by
  unfold startLeaving
  dsimp only
  split <;> exact Or.inr rfl

theorem spares_conclude (session : Session) (purpose : Purpose) (outcome : Outcome) :
    session.pinger.Spares (session.conclude purpose outcome).pinger ∨
      purpose = .bind ∧ (session.conclude purpose outcome).link.state = .bound ∧
        (session.conclude purpose outcome).pinger = session.pinger.start := by
  rcases session.conclude_cases purpose outcome with
    ⟨_, _, bind, _, _, same⟩ | ⟨result, _, same⟩ | ⟨result, _, same⟩
  · rw [same]
    exact Or.inr ⟨bind, rfl, rfl⟩
  · rw [same]
    exact Or.inl (session.spares_startLeaving result)
  · rw [same]
    exact Or.inl (Or.inl rfl)

theorem spares_await (session : Session) (purpose : Purpose) (body : Body) :
    session.pinger.Spares (session.await purpose body).pinger := by
  rcases session.await_cases purpose body with
    ⟨handle, link, _, same⟩ | ⟨result, link, _, ⟨_, same⟩ | ⟨_, same⟩⟩
  · rw [same]
    exact Or.inl rfl
  · rw [same]
    exact Or.inl rfl
  · rw [same]
    exact spares_startLeaving { session with link } result

theorem spares_start (session : Session) (request : Request) :
    session.pinger.Spares (session.start request).pinger := by
  cases request with
  | bind credentials =>
      simp only [Session.start]
      split
      · exact session.spares_await _ _
      · exact Or.inl rfl
  | submit source destination segment wantsReceipt => exact Or.inl rfl
  | sendMessage source destination text =>
      simp only [Session.start]
      split
      · split
        · exact Or.inl rfl
        · exact Or.inl rfl
      · exact Or.inl rfl
  | messageId handle => exact Or.inl rfl
  | enquireLink =>
      simp only [Session.start]
      split
      · exact Or.inl rfl
      · exact session.spares_await _ _
  | unbind =>
      simp only [Session.start]
      split
      · exact spares_await { session with link := session.link.setState .unbound } _ _
      · exact session.spares_startLeaving _
  | disconnect => exact session.spares_startLeaving _
  | waitClosed =>
      simp only [Session.start]
      split
      · exact Or.inl rfl
      · exact Or.inl rfl

theorem off_move (off : session.pinger.phase = .off) (move : Move) :
    (session.move move).pinger.phase = .off ∨ (session.move move).link.state = .bound := by
  have concluded : ∀ link purpose outcome,
      (({ session with link } : Session).conclude purpose outcome).pinger.phase = .off ∨
        (({ session with link } : Session).conclude purpose outcome).link.state = .bound := by
    intro link purpose outcome
    rcases spares_conclude { session with link } purpose outcome with spares | ⟨_, bound, _⟩
    · exact Or.inl (spares.off off)
    · exact Or.inr bound
  cases calling : move.isCalling with
  | false => exact Or.inl (rests_of_off off calling).2
  | true =>
      cases move with
      | start request =>
          simp only [Session.move]
          split
          · exact Or.inl off
          · exact Or.inl ((session.spares_start request).off off)
      | resume =>
          simp only [Session.move, resume]
          split
          · split
            · exact concluded session.link _ _
            · exact Or.inl off
          · exact Or.inl off
          · exact Or.inl rfl
          · exact Or.inl off
      | giveUp =>
          simp only [Session.move, giveUp]
          split
          · exact concluded _ _ _
          · exact Or.inl off
          · exact Or.inl off
          · exact Or.inl off
          · exact Or.inl off
      | drop =>
          simp only [Session.move]
          split
          · exact Or.inl off
          · exact Or.inl off
      | _ => cases calling

theorem off_of_connected {config : SessionConfig} {handlers : HandlerTable} {sink : Sink}
    {moves : List Move}
    (connected : ((starting config handlers sink).run moves).link.state = .connected) :
    ((starting config handlers sink).run moves).pinger.phase = .off := by
  induction moves using List.reverseRecOn with
  | nil => rfl
  | append_singleton moves move ih =>
      rw [run_concat] at connected ⊢
      have orderly := (orderly_starting config handlers sink).run moves
      rcases (signals_move _ move).state_cases orderly with
        ⟨same | leads, _⟩ | ⟨_, _, _, _, _, _, _, bound, _⟩
      · rcases off_move (ih (same.symm.trans connected)) move with off | bound
        · exact off
        · rw [connected] at bound
          cases bound
      · rw [connected] at leads
        exact absurd leads (SessionState.not_leads_connected _)
      · rw [connected] at bound
        cases bound

theorem kept_of_off (off : session.pinger.phase = .off) (other : move.isCalling = false) :
    (session.move move).pinger = session.pinger ∧
      ((session.move move).listener.outcome? = none →
        (session.move move).link.state = session.link.state) := by
  cases move with
  | hear event =>
      simp only [Session.move]
      split
      · exact ⟨rfl, Listener.state_hear⟩
      · exact ⟨rfl, fun _ => rfl⟩
  | handled ending =>
      simp only [Session.move]
      split
      · exact ⟨rfl, Listener.state_handled⟩
      · exact ⟨rfl, fun _ => rfl⟩
  | stop =>
      simp only [Session.move]
      split
      · exact ⟨rfl, Listener.state_stop⟩
      · exact ⟨rfl, fun _ => rfl⟩
  | sweep =>
      simp only [Session.move]
      split
      · exact ⟨rfl, fun _ => rfl⟩
      · exact ⟨rfl, fun _ => rfl⟩
  | ask =>
      simp only [Session.move, off]
      exact ⟨trivial, fun _ => trivial⟩
  | learn =>
      simp only [Session.move, off]
      exact ⟨trivial, fun _ => trivial⟩
  | miss =>
      simp only [Session.move, off]
      exact ⟨trivial, fun _ => trivial⟩
  | age time => exact ⟨rfl, fun _ => rfl⟩
  | _ => cases other

def bindRequest (session : Session) : PendingRequest :=
  ⟨session.link.pending.freeSequence, .bindTransceiver, session.link.pending.issued, session.link.now⟩

def Follows (start session : Session) : Prop :=
  (start.link.register .bindTransceiver).2.pending.Evolves (fun _ => True) session.link.pending

section

variable {later : List Move}

theorem Follows.ticketed (follows : start.Follows session) (ticketed : start.link.pending.Ticketed) :
    session.link.pending.Ticketed :=
  (ticketed.register .bindTransceiver start.link.now).evolves follows

theorem Follows.stands (follows : start.Follows session) (ticketed : start.link.pending.Ticketed) :
    session.link.pending.Stands start.bindRequest.handle := by
  have registered : (start.link.register .bindTransceiver).2.pending.Stands start.bindRequest.handle :=
    Or.inl ⟨start.bindRequest, List.mem_cons_self, rfl⟩
  exact registered.evolves (ticketed.register .bindTransceiver start.link.now) follows

theorem Follows.run (follows : start.Follows session) (later : List Move) :
    start.Follows (session.run later) :=
  PendingTable.Evolves.trans follows (session.evolves_run later)

theorem Follows.gone (follows : start.Follows session) (ticketed : start.link.pending.Ticketed)
    {outcome : Outcome}
    (resolved : session.link.pending.outcome? start.bindRequest.handle = some outcome) :
    ∀ request ∈ session.link.pending.requests, request.ticket ≠ start.link.pending.issued := by
  intro request member same
  have own : request = start.bindRequest := ticketed.eq_registered follows member same
  have waiting := (follows.ticketed ticketed).waiting member
  rw [own, resolved] at waiting
  cases waiting

theorem Follows.late (follows : start.Follows session) (ticketed : start.link.pending.Ticketed)
    (listed : PendingTable.IsSequence start.link.pending.next) {outcome : Outcome}
    (resolved : session.link.pending.outcome? start.bindRequest.handle = some outcome)
    (room : start.link.pending.size + (session.link.pending.issued - start.link.pending.issued) ≤
      PendingTable.lastSequence.toNat)
    {event : Inbound.Event} {response : Outcome}
    (found : event.response? = some (start.bindRequest.sequence, response)) :
    session.move (.hear event) = session := by
  have free : session.link.pending.isOutstanding start.bindRequest.sequence = false := by
    rw [← Bool.not_eq_true, PendingTable.isOutstanding_iff]
    rintro ⟨request, member, same⟩
    apply follows.gone ticketed resolved request member
    exact PendingTable.ticket_of_registered ticketed listed follows room request member same
  exact (correlates_of_ticketed (follows.ticketed ticketed)).stray event _ response found free

end

/-- The bind waits for its answer, and while the listener goes on the session is as it was. -/
structure AwaitsBind (start session : Session) : Prop where
  call : session.call = .awaiting .bind start.bindRequest.handle
  follows : start.Follows session
  pinger : session.pinger = start.pinger
  connected : session.listener.outcome? = none → session.link.state = .connected

/-- The bind has come to this result. Only if its answer was accepted has it changed anything else. -/
inductive BindEnds (start session : Session) : Result → Prop
  | accepts {frame : Frame} {answer : Answer}
      (resolved : session.link.pending.outcome? start.bindRequest.handle = some (.ok frame))
      (accepted : Purpose.bind.judge frame = .ok answer) (bound : session.link.state = .bound) :
      BindEnds start session (.ok answer)
  | fails {outcome : Outcome} {error : SessionError}
      (resolved : session.link.pending.outcome? start.bindRequest.handle = some outcome)
      (unaccepted : ∀ answer, outcome.bind Purpose.bind.judge ≠ .ok answer)
      (pinger : session.pinger = start.pinger)
      (connected : error.isFatal = false → session.listener.outcome? = none →
        session.link.state = .connected) : BindEnds start session (.error error)

def concluding (session : Session) (purpose : Purpose) (handle : PendingHandle) : Session :=
  ({ session with link := (session.link.giveUp handle).2 } : Session).conclude purpose
    (session.link.giveUp handle).1

section

variable {credentials : Credentials} {moves during : List Move} {result : Result}

theorem bind_cases (ticketed : session.link.pending.Ticketed) (connected : session.link.state = .connected)
    (credentials : Credentials) :
    session.AwaitsBind (session.start (.bind credentials)) ∧
      session.bindRequest ∈ (session.start (.bind credentials)).link.pending.requests ∨
    ∃ error, (session.start (.bind credentials)).call = .returned (.error error) ∧
      session.Follows (session.start (.bind credentials)) ∧
      (session.start (.bind credentials)).link.pending.outcome? session.bindRequest.handle =
        some (.error .connectionLost) ∧
      session.BindEnds (session.start (.bind credentials)) (.error error) := by
  simp only [Session.start, if_pos connected, await]
  rcases session.link.send_cases (.bindTransceiver credentials.request) with
    ⟨writer, _, same⟩ | ⟨error, link, same, _⟩
  · rw [same]
    have awaits : session.AwaitsBind { session with
        link := { (session.link.register .bindTransceiver).2 with writer }
        call := .awaiting .bind session.bindRequest.handle } :=
      ⟨rfl, .refl, rfl, fun _ => connected⟩
    exact Or.inl ⟨awaits, List.mem_cons_self⟩
  · obtain ⟨follows, lost⟩ := Link.lost_of_unsent ticketed same
    rw [same]
    refine Or.inr ⟨error, rfl, follows, lost, .fails lost ?_ rfl ?_⟩
    · intro answer accepted
      cases accepted
    · intro mild _
      exact (Link.state_of_unsent same mild).trans connected

theorem AwaitsBind.step (awaits : start.AwaitsBind session) (off : start.pinger.phase = .off)
    (patient : move.isPatient = true) :
    start.AwaitsBind (session.move move) ∨
      session.move move = session.concluding .bind start.bindRequest.handle := by
  cases calling : move.isCalling with
  | true =>
      cases move with
      | resume =>
          simp only [Session.move, resume, awaits.call]
          cases resolved : session.link.pending.outcome? start.bindRequest.handle with
          | some outcome =>
              rw [concluding, giveUp_of_resolved resolved]
              exact Or.inr rfl
          | none => exact Or.inl awaits
      | giveUp =>
          simp only [Session.move, giveUp, awaits.call]
          exact Or.inr rfl
      | start request => cases patient
      | drop => cases patient
      | _ => cases calling
  | false =>
      have stopped : session.pinger.phase = .off := by
        rw [awaits.pinger]
        exact off
      obtain ⟨pinger, state⟩ := kept_of_off stopped calling
      left
      constructor
      · exact (call_move calling).trans awaits.call
      · exact PendingTable.Evolves.trans awaits.follows (session.evolves_move move)
      · exact pinger.trans awaits.pinger
      · intro going
        rw [state going]
        apply awaits.connected
        cases listener : session.listener with
        | ended outcome =>
            rw [listener_move_of_ended listener move] at going
            cases going
        | reading => rfl
        | handling handler frame => rfl

theorem conclude_bind_cases (session : Session) (outcome : Outcome) :
    (∃ frame answer, outcome = .ok frame ∧ Purpose.bind.judge frame = .ok answer ∧
      session.conclude .bind outcome =
        { session with
          link := session.link.setState .bound
          pinger := session.pinger.start
          call := .returned (.ok answer) }) ∨
    ∃ error, outcome.bind Purpose.bind.judge = .error error ∧
      session.conclude .bind outcome = session.returning (.error error) := by
  cases judged : outcome.bind Purpose.bind.judge with
  | ok answer =>
      cases outcome with
      | ok frame =>
          have accepted : Purpose.bind.judge frame = .ok answer := judged
          refine Or.inl ⟨frame, answer, rfl, accepted, ?_⟩
          simp only [conclude, judged]
      | error error => cases judged
  | error error =>
      refine Or.inr ⟨error, rfl, ?_⟩
      simp only [conclude, judged]

theorem AwaitsBind.ends (awaits : start.AwaitsBind session) (ticketed : start.link.pending.Ticketed) :
    ∃ result, (session.concluding .bind start.bindRequest.handle).call = .returned result ∧
      start.Follows (session.concluding .bind start.bindRequest.handle) ∧
      start.BindEnds (session.concluding .bind start.bindRequest.handle) result := by
  have resolved := (awaits.follows.ticketed ticketed).outcome?_giveUp (awaits.follows.stands ticketed)
  have follows : (start.link.register .bindTransceiver).2.pending.Evolves (fun _ => True)
      (session.link.giveUp start.bindRequest.handle).2.pending :=
    awaits.follows.trans ((session.link.spares_giveUp _).pending.mono fun _ _ => trivial)
  unfold concluding
  rcases ({ session with link := (session.link.giveUp start.bindRequest.handle).2 } :
      Session).conclude_bind_cases (session.link.giveUp start.bindRequest.handle).1 with
    ⟨frame, answer, came, accepted, same⟩ | ⟨error, judged, same⟩
  · rw [same]
    have answered : (session.link.giveUp start.bindRequest.handle).2.pending.outcome?
        start.bindRequest.handle = some (.ok frame) := by
      rw [← came]
      exact resolved
    exact ⟨_, rfl, follows, .accepts answered accepted rfl⟩
  · rw [same]
    refine ⟨_, rfl, follows, .fails resolved ?_ awaits.pinger ?_⟩
    · intro answer accepted
      cases judged.symm.trans accepted
    · intro _ going
      exact awaits.connected going

theorem awaits_or_concludes (began : start.AwaitsBind session) (off : start.pinger.phase = .off)
    (patient : ∀ move ∈ moves, move.isPatient = true) :
    (∀ earlier, earlier <+: moves → start.AwaitsBind (session.run earlier)) ∨
    ∃ earlier last, earlier ++ [last] <+: moves ∧
      (∀ first, first <+: earlier → start.AwaitsBind (session.run first)) ∧
      session.run (earlier ++ [last]) = (session.run earlier).concluding .bind start.bindRequest.handle := by
  induction moves using List.reverseRecOn with
  | nil =>
      left
      intro earlier starts
      rw [List.prefix_nil.mp starts]
      exact began
  | append_singleton moves move ih =>
      obtain ⟨before, last⟩ := List.forall_mem_append.mp patient
      rcases ih before with waited | ⟨earlier, last, starts, waited, concluded⟩
      · have now := waited moves (List.prefix_refl _)
        rcases now.step off (last move List.mem_cons_self) with still | concluded
        · left
          intro earlier starts
          rcases List.prefix_concat_iff.mp starts with rfl | shorter
          · rw [run_concat]
            exact still
          · exact waited earlier shorter
        · rw [← run_concat] at concluded
          exact Or.inr ⟨moves, move, List.prefix_refl _, waited, concluded⟩
      · exact Or.inr ⟨earlier, last, starts.trans (List.prefix_append _ _), waited, concluded⟩

end

/-- A call takes so long as these moves: it waits until the last of them, and then it returns. If there are
none, it returns at once. -/
structure Lasts (session : Session) (request : Request) (during : List Move) (result : Result) : Prop where
  patient : ∀ move ∈ during, move.isPatient = true
  waiting : ∀ earlier, earlier <+: during → earlier ≠ during →
    (session.run (.start request :: earlier)).call.isUnderWay = true
  returned : (session.run (.start request :: during)).call = .returned result

section

variable {credentials : Credentials} {during : List Move} {result : Result}

theorem AwaitsBind.underWay (awaits : start.AwaitsBind session) : session.call.isUnderWay = true := by
  rw [awaits.call]
  rfl

theorem bindEnds_of_lasts (ticketed : session.link.pending.Ticketed)
    (connected : session.link.state = .connected) (off : session.pinger.phase = .off)
    (free : session.call.isUnderWay = false) (lasts : session.Lasts (.bind credentials) during result) :
    session.Follows (session.run (.start (.bind credentials) :: during)) ∧
      session.BindEnds (session.run (.start (.bind credentials) :: during)) result := by
  obtain ⟨patient, waiting, returned⟩ := lasts
  simp only [run_cons, move_start free] at waiting returned ⊢
  rcases bind_cases ticketed connected credentials with
    ⟨began, _⟩ | ⟨error, call, follows, _, ends⟩
  · rcases awaits_or_concludes began off patient with waits | ⟨earlier, last, starts, waited, concluded⟩
    · have still := (waits during (List.prefix_refl _)).call
      rw [returned] at still
      cases still
    · obtain ⟨found, call, follows, ends⟩ := (waited earlier (List.prefix_refl _)).ends ticketed
      rw [← concluded] at call follows ends
      -- The call has returned by then, so that no move is left.
      have whole : earlier ++ [last] = during := by
        by_contra other
        have still := waiting _ starts other
        rw [call] at still
        cases still
      rw [whole] at call follows ends
      rw [returned] at call
      cases call
      exact ⟨follows, ends⟩
  · have none : during = [] := by
      by_contra other
      have still := waiting [] List.nil_prefix (Ne.symm other)
      rw [run_nil, call] at still
      cases still
    subst none
    rw [run_nil] at returned ⊢
    rw [call] at returned
    cases returned
    exact ⟨follows, ends⟩

theorem exists_lasts (ticketed : session.link.pending.Ticketed)
    (connected : session.link.state = .connected) (off : session.pinger.phase = .off)
    (free : session.call.isUnderWay = false) (credentials : Credentials)
    (patient : ∀ move ∈ during, move.isPatient = true) :
    ∃ taken result, taken <+: during ++ [.giveUp] ∧ session.Lasts (.bind credentials) taken result := by
  have all : ∀ move ∈ during ++ [.giveUp], move.isPatient = true :=
    List.forall_mem_append.mpr ⟨patient, List.forall_mem_singleton.mpr rfl⟩
  rcases bind_cases ticketed connected credentials with ⟨began, _⟩ | ⟨error, call, _⟩
  · rcases awaits_or_concludes began off all with waits | ⟨earlier, last, starts, waited, concluded⟩
    · have waited := (waits during (List.prefix_append _ _)).call
      have still := (waits _ (List.prefix_refl _)).call
      have gaveUp : ((session.start (.bind credentials)).run (during ++ [.giveUp])) =
          ((session.start (.bind credentials)).run during).concluding .bind session.bindRequest.handle := by
        rw [run_concat]
        simp only [Session.move, giveUp, waited]
        rfl
      obtain ⟨result, call, _⟩ := (waits during (List.prefix_append _ _)).ends ticketed
      rw [gaveUp, call] at still
      cases still
    · obtain ⟨result, call, _⟩ := (waited earlier (List.prefix_refl _)).ends ticketed
      refine ⟨earlier ++ [last], result, starts, ?_⟩
      constructor
      · intro move member
        exact all move (starts.subset member)
      · intro first begins other
        rw [run_cons, move_start free]
        rcases List.prefix_concat_iff.mp begins with same | shorter
        · exact absurd same other
        · exact (waited first shorter).underWay
      · rw [run_cons, move_start free, concluded]
        exact call
  · refine ⟨[], .error error, List.nil_prefix, ?_⟩
    constructor
    · exact List.forall_mem_nil _
    · intro first begins other
      exact absurd (List.prefix_nil.mp begins) other
    · rw [run_cons, run_nil, move_start free]
      exact call

end

theorem patient_of_other (other : move.isCalling = false) : move.isPatient = true := by
  cases move with
  | start request => cases other
  | drop => cases other
  | _ => rfl

theorem call_run {moves : List Move} (others : ∀ move ∈ moves, move.isCalling = false) :
    (session.run moves).call = session.call := by
  induction moves generalizing session with
  | nil => rfl
  | cons move moves ih =>
      have rest : ((session.move move).run moves).call = (session.move move).call :=
        ih fun other later => others other (List.mem_cons_of_mem _ later)
      exact rest.trans (call_move (others move List.mem_cons_self))

theorem lasts_of_others {request : Request} {others : List Move} {result : Result}
    (free : session.call.isUnderWay = false) (waiting : (session.start request).call.isUnderWay = true)
    (quiet : ∀ move ∈ others, move.isCalling = false) (patient : move.isPatient = true)
    (returned : ((session.start request).run (others ++ [move])).call = .returned result) :
    session.Lasts request (others ++ [move]) result := by
  constructor
  · rw [List.forall_mem_append, List.forall_mem_singleton]
    exact ⟨fun other member => patient_of_other (quiet other member), patient⟩
  · intro earlier begins other
    rw [run_cons, move_start free]
    rcases List.prefix_concat_iff.mp begins with same | shorter
    · exact absurd same other
    · rw [call_run fun move member => quiet move (shorter.subset member)]
      exact waiting
  · rw [run_cons, move_start free]
    exact returned

structure IsReady (session : Session) : Prop where
  listening : session.listener = .reading ∨
    ∃ handler frame, session.listener = .handling handler frame ∧ frame.body ≠ .unbind
  opened : session.link.writer.isClosed = false
  unlimited : session.link.writer.sink.room = none

def bindAnswer (sequence : UInt32) : Frame := ⟨.ok, sequence, .bindTransceiverResp {}⟩

section

variable {request : PendingRequest} {credentials : Credentials}

theorem bound_of_answer (waiting : session.call = .awaiting .bind request.handle)
    (reading : session.listener = .reading) (ticketed : session.link.pending.Ticketed)
    (waits : request ∈ session.link.pending.requests) :
    let after := (session.move (.hear (.frame (bindAnswer request.sequence)))).move .resume
    after.call = .returned (.ok .done) ∧ after.link.state = .bound := by
  intro after
  have outstanding : session.link.pending.isOutstanding request.sequence = true :=
    PendingTable.isOutstanding_iff.mpr ⟨request, waits, rfl⟩
  have response : CommandId.bindTransceiverResp.isResponse = true := by decide
  obtain ⟨pending, handler, settles, _, heard⟩ :=
    (correlates_of_ticketed ticketed).matched (bindAnswer request.sequence) reading response outstanding
  have resolved := (settles.resolved request waits rfl).2
  simp only [after, heard]
  simp only [Session.move, resume, waiting, resolved]
  exact ⟨rfl, rfl⟩

theorem IsReady.exists_reading (ready : session.IsReady) :
    ∃ others, (∀ move ∈ others, move.isCalling = false) ∧ (session.run others).listener = .reading ∧
      (session.run others).link.pending = session.link.pending := by
  rcases ready.listening with reading | ⟨handler, frame, handling, other⟩
  · exact ⟨[], List.forall_mem_nil _, reading, rfl⟩
  · obtain ⟨writer, handled⟩ :=
      Listener.reading_of_handled ready.opened ready.unlimited other (.returned .ok)
    have moved : session.move (.handled (.returned .ok)) =
        session.withListener ({ session.link with writer }, .reading) := by
      simp only [Session.move, handling, handled]
    refine ⟨[.handled (.returned .ok)], List.forall_mem_singleton.mpr rfl, ?_, ?_⟩
    · rw [run_cons, run_nil, moved]
      rfl
    · rw [run_cons, run_nil, moved]
      rfl

theorem IsReady.binds (ready : session.IsReady) (free : session.call.isUnderWay = false)
    (connected : session.link.state = .connected) (ticketed : session.link.pending.Ticketed)
    (encodable : (Body.bindTransceiver credentials.request).IsEncodable) :
    ∃ moves, session.Lasts (.bind credentials) moves (.ok .done) ∧
      (session.run (.start (.bind credentials) :: moves)).link.state = .bound := by
  obtain ⟨writer, sent, opened, unlimited⟩ := Link.sent_of_unlimited ready.opened ready.unlimited encodable
  have began : session.start (.bind credentials) = { session with
      link := { (session.link.register .bindTransceiver).2 with writer }
      call := .awaiting .bind session.bindRequest.handle } := by
    simp only [Session.start, if_pos connected, await, sent]
    rfl
  have underWay : (session.start (.bind credentials)).call = .awaiting .bind session.bindRequest.handle := by
    rw [began]
  have pending : (session.start (.bind credentials)).link.pending =
      (session.link.register .bindTransceiver).2.pending := by
    rw [began]
  have still : (session.start (.bind credentials)).IsReady := by
    rw [began]
    exact ⟨ready.listening, opened, unlimited⟩
  obtain ⟨others, quiet, reading, same⟩ := still.exists_reading
  have counts : ((session.start (.bind credentials)).run others).link.pending.Ticketed := by
    rw [same, pending]
    exact ticketed.register _ _
  have waits : session.bindRequest ∈
      ((session.start (.bind credentials)).run others).link.pending.requests := by
    rw [same, pending]
    exact List.mem_cons_self
  obtain ⟨returned, bound⟩ := bound_of_answer ((call_run quiet).trans underWay) reading counts waits
  have quietly : ∀ move ∈ others ++ [.hear (.frame (bindAnswer session.bindRequest.sequence))],
      move.isCalling = false :=
    List.forall_mem_append.mpr ⟨quiet, List.forall_mem_singleton.mpr rfl⟩
  refine ⟨_, lasts_of_others free ?_ quietly (rfl : Move.isPatient .resume = true) ?_, ?_⟩
  · rw [underWay]
    rfl
  · rw [run_concat, run_concat]
    exact returned
  · rw [run_cons, move_start free, run_concat, run_concat]
    exact bound

end

/-- The SMS centre answers the bind with this frame: the listener takes it up while the bind waits for a
response with its number. -/
def AnswersBind (session : Session) (credentials : Credentials) (during : List Move) (frame : Frame) : Prop :=
  frame.sequence = session.bindRequest.sequence ∧
    ∃ earlier later, during = earlier ++ .hear (.frame frame) :: later ∧
      (session.run (.start (.bind credentials) :: earlier)).listener = .reading ∧
      session.bindRequest ∈ (session.run (.start (.bind credentials) :: earlier)).link.pending.requests

/-- The session is as it was before the bind, no answer to that can change it any more, and another bind may
follow. -/
structure Restores (session after : Session) : Prop where
  state : after.link.state = .connected
  pinger : after.pinger = session.pinger ∧ after.pinger.phase = .off
  gone : ∀ later, ∀ request ∈ (after.run later).link.pending.requests,
    request.ticket ≠ session.bindRequest.ticket
  late : ∀ later event response,
    session.link.pending.size + ((after.run later).link.pending.issued - session.link.pending.issued) ≤
        PendingTable.lastSequence.toNat →
      event.response? = some (session.bindRequest.sequence, response) →
        (after.run later).move (.hear event) = after.run later
  again : ∀ credentials, after.IsReady → (Body.bindTransceiver credentials.request).IsEncodable →
    ∃ moves, after.Lasts (.bind credentials) moves (.ok .done) ∧
      (after.run (.start (.bind credentials) :: moves)).link.state = .bound

/-- A bind succeeds if and only if it was accepted, and then the session is bound. If it fails, and the
connection does not, it has been for nothing. -/
structure BindsOrRestores (session : Session) (credentials : Credentials) (during : List Move)
    (result : Result) : Prop where
  accepted : result = .ok .done ↔ ∃ frame, session.AnswersBind credentials during frame ∧
    frame.commandId = .bindTransceiverResp ∧ frame.status.isOk = true
  bound : ∀ answer, result = .ok answer → answer = .done ∧
    (session.run (.start (.bind credentials) :: during)).link.state = .bound
  restored : ∀ error, result = .error error → error.isFatal = false →
    (session.run (.start (.bind credentials) :: during)).listener.outcome? = none →
      session.Restores (session.run (.start (.bind credentials) :: during))

section

variable {credentials : Credentials} {during : List Move} {result : Result} {frame : Frame}

theorem answersBind_of_resolved (ticketed : session.link.pending.Ticketed)
    (connected : session.link.state = .connected) (free : session.call.isUnderWay = false)
    (resolved : (session.run (.start (.bind credentials) :: during)).link.pending.outcome?
      session.bindRequest.handle = some (.ok frame)) : session.AnswersBind credentials during frame := by
  have accounts : (session.start (.bind credentials)).link.pending.Ticketed :=
    ticketed.evolves (session.reaches_start (.bind credentials) fun _ => trivial).spares.pending
  rw [run_cons, move_start free] at resolved
  rcases bind_cases ticketed connected credentials with ⟨_, waits⟩ | ⟨error, _, _, lost, _⟩
  · obtain ⟨earlier, later, same, reading, waited, sequence⟩ := heard_while_waiting accounts waits resolved
    refine ⟨sequence, earlier, later, same, ?_⟩
    rw [run_cons, move_start free]
    exact ⟨reading, waited⟩
  · rw [outcome?_run accounts lost during] at resolved
    cases resolved

theorem AnswersBind.resolved (answers : session.AnswersBind credentials during frame)
    (ticketed : session.link.pending.Ticketed) (response : frame.isResponse = true) :
    (session.run (.start (.bind credentials) :: during)).link.pending.outcome? session.bindRequest.handle =
      some (.ok frame) := by
  obtain ⟨sequence, earlier, later, rfl, reading, waits⟩ := answers
  have counts := ticketed.evolves (session.evolves_run (.start (.bind credentials) :: earlier))
  have outstanding : (session.run (.start (.bind credentials) :: earlier)).link.pending.isOutstanding
      frame.sequence = true :=
    PendingTable.isOutstanding_iff.mpr ⟨session.bindRequest, waits, sequence.symm⟩
  obtain ⟨pending, handler, settles, _, heard⟩ :=
    (correlates_of_ticketed counts).matched frame reading response outstanding
  have now : ((session.run (.start (.bind credentials) :: earlier)).move
      (.hear (.frame frame))).link.pending.outcome? session.bindRequest.handle = some (.ok frame) := by
    rw [heard]
    exact (settles.resolved session.bindRequest waits sequence.symm).2
  rw [← List.cons_append, run_append, run_cons]
  exact outcome?_run (counts.evolves (evolves_move _ _)) now later

theorem judge_of_accepts {answer : Answer} (accepted : Purpose.bind.judge frame = .ok answer) :
    answer = .done := by
  obtain ⟨response, success⟩ := Purpose.judge_ok accepted
  have done := (Purpose.judge_done (by decide) frame).mpr ⟨response, success⟩
  rw [accepted] at done
  exact Except.ok.inj done

theorem Follows.restores {after : Session} {outcome : Outcome} (follows : session.Follows after)
    (ticketed : session.link.pending.Ticketed)
    (listed : PendingTable.IsSequence session.link.pending.next) (off : session.pinger.phase = .off)
    (resolved : after.link.pending.outcome? session.bindRequest.handle = some outcome)
    (pinger : after.pinger = session.pinger) (connected : after.link.state = .connected)
    (free : after.call.isUnderWay = false) : session.Restores after := by
  have counts := follows.ticketed ticketed
  have settled := outcome?_run counts resolved
  constructor
  · exact connected
  · rw [pinger]
    exact ⟨rfl, off⟩
  · intro later
    exact (follows.run later).gone ticketed (settled later)
  · intro later event response room found
    exact (follows.run later).late ticketed listed (settled later) room found
  · intro credentials ready encodable
    exact ready.binds free connected counts encodable

theorem bindsOrRestores_of_lasts (ticketed : session.link.pending.Ticketed)
    (listed : PendingTable.IsSequence session.link.pending.next)
    (connected : session.link.state = .connected) (off : session.pinger.phase = .off)
    (free : session.call.isUnderWay = false) (lasts : session.Lasts (.bind credentials) during result) :
    session.BindsOrRestores credentials during result := by
  obtain ⟨follows, ends⟩ := bindEnds_of_lasts ticketed connected off free lasts
  have returned := lasts.returned
  cases ends with
  | @accepts frame answer resolved accepted bound =>
      have done : answer = .done := judge_of_accepts accepted
      subst done
      constructor
      · refine iff_of_true rfl ⟨frame, ?_, Purpose.judge_ok accepted⟩
        exact answersBind_of_resolved ticketed connected free resolved
      · intro answer same
        cases same
        exact ⟨rfl, bound⟩
      · intro error same
        cases same
  | @fails outcome error resolved unaccepted pinger kept =>
      constructor
      · constructor
        · intro same
          cases same
        · rintro ⟨frame, answers, agreed⟩
          have isResponse : CommandId.bindTransceiverResp.isResponse = true := by decide
          rw [← agreed.1] at isResponse
          have same := Option.some.inj (resolved.symm.trans (answers.resolved ticketed isResponse))
          subst same
          have accepted : Purpose.bind.judge frame = .ok .done :=
            (Purpose.judge_done (by decide) frame).mpr agreed
          exact absurd accepted (unaccepted .done)
      · intro answer same
        cases same
      · intro found same mild going
        cases same
        apply follows.restores ticketed listed off resolved pinger (kept mild going)
        rw [returned]
        rfl

end

/-- However a session is doing, a bind returns by the time that it has waited long enough. It makes the
session bound, or else the session is as it was, as long as the connection is there. -/
theorem bound_or_as_before (config : SessionConfig) (handlers : HandlerTable) (sink : Sink)
    (before : List Move) (credentials : Credentials)
    (free : ((starting config handlers sink).run before).call.isUnderWay = false) :
    let session := (starting config handlers sink).run before
    (session.link.state ≠ .connected → session.move (.start (.bind credentials)) =
      session.returning (.error (.invalidState s!"cannot bind while {session.link.state.name}"))) ∧
    (session.link.state = .connected →
      (∀ during, (∀ move ∈ during, move.isPatient = true) → ∃ taken result,
        taken <+: during ++ [.giveUp] ∧ session.Lasts (.bind credentials) taken result) ∧
      ∀ during result, session.Lasts (.bind credentials) during result →
        session.BindsOrRestores credentials during result) := by
  intro session
  have ticketed : session.link.pending.Ticketed :=
    PendingTable.ticketed_new.evolves ((starting config handlers sink).evolves_run before)
  have listed : PendingTable.IsSequence session.link.pending.next :=
    ((sound_starting config handlers sink).run before).next
  constructor
  · intro other
    rw [move_start free, Session.start, if_neg other]
  · intro connected
    have off : session.pinger.phase = .off := off_of_connected connected
    constructor
    · intro during patient
      exact exists_lasts ticketed connected off free credentials patient
    · intro during result lasts
      exact bindsOrRestores_of_lasts ticketed listed connected off free lasts

/-- Nobody answers the bind in time. The answer comes after that, and it is too late. -/
theorem bound_or_as_before_sample :
    let session := starting {} .standard {}
    let after := session.run [.start (.bind { systemId := "esme" }), .age 30000, .giveUp]
    session.call.isUnderWay = false ∧ session.link.state = .connected ∧
      session.Lasts (.bind { systemId := "esme" }) [.age 30000, .giveUp] (.error .timeout) ∧
      after.move (.hear (.frame (bindAnswer 1))) = after ∧
      ∃ moves, after.Lasts (.bind { systemId := "esme" }) moves (.ok .done) ∧
        (after.run (.start (.bind { systemId := "esme" }) :: moves)).link.state = .bound := by
  intro session after
  have free : session.call.isUnderWay = false := rfl
  have connected : session.link.state = .connected := rfl
  have quiet : ∀ move ∈ [Move.age 30000], move.isCalling = false := List.forall_mem_singleton.mpr rfl
  have lasts : session.Lasts (.bind { systemId := "esme" }) ([.age 30000] ++ [.giveUp]) (.error .timeout) :=
    lasts_of_others free rfl quiet rfl rfl
  obtain ⟨_, binds⟩ := bound_or_as_before {} .standard {} [] { systemId := "esme" } free
  have restores : session.Restores after := ((binds connected).2 _ _ lasts).restored .timeout rfl rfl rfl
  have room : session.link.pending.size + (after.link.pending.issued - session.link.pending.issued) ≤
      PendingTable.lastSequence.toNat := by decide +kernel
  have answers : Inbound.Event.response? (.frame (bindAnswer 1)) =
      some (session.bindRequest.sequence, .ok (bindAnswer 1)) := rfl
  have late := restores.late [] (.frame (bindAnswer 1)) (.ok (bindAnswer 1))
  rw [run_nil] at late
  have usable : after.link.writer.isClosed = false ∧ after.link.writer.sink.room = none := by decide +kernel
  have ready : after.IsReady := ⟨Or.inl rfl, usable.1, usable.2⟩
  have encodable : (Body.bindTransceiver (Credentials.request { systemId := "esme" })).IsEncodable := rfl
  exact ⟨free, connected, lasts, late room answers, restores.again { systemId := "esme" } ready encodable⟩

end Session

end Smpp
