import Smpp.Proofs.Session.Correlation
import Smpp.Proofs.Session.Signals

/-!
How the state of a session goes on. It leads from one state to the next only as the protocol has it, with
one exception: a bind that was answered in time is accepted whenever its call goes on, and the session may
be disconnected by then.
-/

namespace Smpp

/-- How the states of a session are to follow each other. -/
inductive SessionState.Leads : SessionState → SessionState → Prop
  | bind : Leads .connected .bound
  | refuse : Leads .connected .unbound
  | unbind : Leads .bound .unbound
  | disconnect (state : SessionState) : Leads state .disconnected

def SessionState.Goes (before after : SessionState) : Prop := after = before ∨ before.Leads after

theorem SessionState.goes_of_same {before after : SessionState}
    (same : after = before ∨ after = .disconnected) :
    before.Goes after ∧ (after = .bound → before = .bound) := by
  rcases same with rfl | rfl
  · exact ⟨Or.inl rfl, id⟩
  · refine ⟨Or.inr (.disconnect before), fun impossible => ?_⟩
    cases impossible

theorem SessionState.goes_unbound {state : SessionState} (connected : state ≠ .disconnected) :
    state.Goes .unbound := by
  cases state with
  | disconnected => exact absurd rfl connected
  | connected => exact Or.inr .refuse
  | bound => exact Or.inr .unbind
  | unbound => exact Or.inl rfl

theorem SessionState.goes_of_bound {before after : SessionState} (bound : before = .bound)
    (same : after = .unbound ∨ after = .disconnected) :
    before.Goes after ∧ (after = .bound → before = .bound) := by
  subst bound
  refine ⟨?_, fun _ => rfl⟩
  rcases same with rfl | rfl
  · exact Or.inr .unbind
  · exact Or.inr (.disconnect _)

theorem Purpose.judge_ok {purpose : Purpose} {frame : Frame} {answer : Answer}
    (accepted : purpose.judge frame = .ok answer) :
    frame.commandId = purpose.response ∧ frame.status.isOk = true := by
  unfold judge at accepted
  split at accepted
  · cases accepted
  · split at accepted
    · cases accepted
    · rename_i response
      split at accepted
      · rename_i success
        exact ⟨not_not.mp response, success⟩
      · cases accepted

theorem Purpose.judge_of_ok {purpose : Purpose} {frame : Frame} (response : frame.commandId = purpose.response)
    (success : frame.status.isOk = true) : ∃ answer, purpose.judge frame = .ok answer ∧
      (purpose ≠ .messageId → answer = .done) := by
  have other : purpose.response ≠ .genericNack := by cases purpose <;> decide
  unfold judge
  rw [response, success, if_neg other, if_neg (not_not.mpr rfl), if_pos rfl]
  split
  · rename_i id body
    refine ⟨_, rfl, fun notSubmit => ?_⟩
    rw [Frame.commandId, body] at response
    cases purpose with
    | messageId => exact absurd rfl notSubmit
    | _ => cases response
  · exact ⟨_, rfl, fun _ => rfl⟩

theorem Purpose.judge_done {purpose : Purpose} (other : purpose ≠ .messageId) (frame : Frame) :
    purpose.judge frame = .ok .done ↔ frame.commandId = purpose.response ∧ frame.status.isOk = true := by
  constructor
  · exact Purpose.judge_ok
  · rintro ⟨response, success⟩
    obtain ⟨answer, accepted, done⟩ := Purpose.judge_of_ok response success
    rw [accepted, done other]

namespace Link

theorem waits_of_send {link after : Link} {body : Body} {handle : PendingHandle}
    (sent : link.send body = (.ok handle, after)) :
    ∃ request ∈ after.pending.requests, request.handle = handle := by
  rcases link.send_cases body with ⟨writer, _, same⟩ | ⟨error, failed, same, _⟩
  · rw [same] at sent
    cases sent
    exact ⟨_, List.mem_cons_self, rfl⟩
  · rw [same] at sent
    cases sent

theorem Sends.state_cases {before after : Link} (sends : before.Sends after) :
    after.state = before.state ∨ after.state = .disconnected ∧ after.writer.IsMute := by
  rcases sends.signals with alike | ⟨broken, mute⟩
  · exact Or.inl alike.state
  · exact Or.inr ⟨broken.state, mute⟩

theorem Sends.state_eq {before after : Link} (sends : before.Sends after) :
    after.state = before.state ∨ after.state = .disconnected :=
  sends.state_cases.imp_right And.left

end Link

namespace Session

variable {session after start : Session} {move : Move}

/-- A session that is disconnected, or about to be, writes nothing more, and a call that waits for the
answer to a bind has not seen the session go any further. -/
structure IsOrderly (session : Session) : Prop where
  severed : session.link.state = .disconnected → session.link.writer.IsMute
  leaving : ∀ result, session.call = .leaving result → session.link.writer.IsMute
  binding : ∀ handle, session.call = .awaiting .bind handle →
    session.link.state = .connected ∨ session.link.state = .disconnected

theorem orderly_starting (config : SessionConfig) (handlers : HandlerTable) (sink : Sink) :
    (starting config handlers sink).IsOrderly where
  severed disconnected := by cases disconnected
  leaving result leaving := by cases leaving
  binding handle waiting := by cases waiting

theorem orderly_of_idle (severed : after.link.state = .disconnected → after.link.writer.IsMute)
    (idle : after.call.isDeciding = false) : after.IsOrderly where
  severed := severed
  leaving _ leaving := absurd leaving (Call.ne_of_idle idle rfl)
  binding _ waiting := absurd waiting (Call.ne_of_idle idle rfl)

theorem orderly_of_mute (mute : after.link.writer.IsMute)
    (binding : ∀ handle, after.call = .awaiting .bind handle →
      after.link.state = .connected ∨ after.link.state = .disconnected) : after.IsOrderly :=
  ⟨fun _ => mute, fun _ _ => mute, binding⟩

theorem IsOrderly.sends (orderly : session.IsOrderly) (sends : session.link.Sends after.link)
    (call : after.call = session.call ∨ after.call.isDeciding = false) : after.IsOrderly := by
  have severed : after.link.state = .disconnected → after.link.writer.IsMute := by
    intro disconnected
    rcases sends.state_cases with same | ⟨_, mute⟩
    · exact sends.mute (orderly.severed (same ▸ disconnected))
    · exact mute
  rcases call with same | idle
  · refine ⟨severed, fun result leaving => ?_, fun handle waiting => ?_⟩
    · exact sends.mute (orderly.leaving result (same ▸ leaving))
    · rcases sends.state_cases with state | ⟨disconnected, _⟩
      · rw [state]
        exact orderly.binding handle (same ▸ waiting)
      · exact Or.inr disconnected
  · exact orderly_of_idle severed idle

theorem IsOrderly.step (orderly : session.IsOrderly) (signals : session.Signals move after) :
    after.IsOrderly := by
  cases signals with
  | sends sends _ call => exact orderly.sends sends call
  | binds _ connected sent =>
      rcases (Link.sends_of_send sent).state_cases with same | ⟨disconnected, mute⟩
      · refine ⟨fun disconnected => ?_, nofun, fun _ _ => Or.inl (same.trans connected)⟩
        rw [same, connected] at disconnected
        cases disconnected
      · exact orderly_of_mute mute fun _ _ => Or.inr disconnected
  | accepts _ _ _ _ link _ call =>
      refine orderly_of_idle (fun disconnected => ?_) call
      rw [link] at disconnected
      cases disconnected
  | unbinds _ _ sends _ call =>
      refine ⟨fun disconnected => ?_, fun result leaving => ?_, fun handle waiting => ?_⟩
      · rcases sends.state_cases with same | ⟨_, mute⟩
        · rw [same] at disconnected
          cases disconnected
        · exact mute
      · rw [call] at leaving
        cases leaving
      · rw [call] at waiting
        cases waiting
  | departs _ _ departs _ =>
      rcases departs.parting with ⟨⟨result, leaving⟩, _⟩ | ⟨idle, _⟩
      · refine orderly_of_mute (Or.inr departs.closed) fun handle waiting => ?_
        rw [leaving] at waiting
        cases waiting
      · exact orderly_of_idle (fun _ => Or.inr departs.closed) idle
  | left leaving link writer _ _ call =>
      refine orderly_of_idle (fun _ => ?_) call
      rw [writer]
      exact orderly.leaving _ leaving
  | @alarms _ middle _ sends link _ call =>
      have orderly : ({ session with link := middle } : Session).IsOrderly := orderly.sends sends (Or.inl rfl)
      refine ⟨?_, ?_, ?_⟩
      · rw [link]
        exact orderly.severed
      · rw [link, call]
        exact orderly.leaving
      · rw [link, call]
        exact orderly.binding
  | ends _ _ state closed _ _ => exact orderly_of_mute (Or.inr closed) fun _ _ => Or.inr state

theorem IsOrderly.run (orderly : session.IsOrderly) (moves : List Move) : (session.run moves).IsOrderly := by
  induction moves generalizing session with
  | nil => exact orderly
  | cons move moves ih => exact ih (orderly.step (session.signals_move move))

def Binds (start : Session) (moves : List Move) (handle : PendingHandle) : Prop :=
  ∃ before credentials since, moves = before ++ .start (.bind credentials) :: since ∧
    (start.run before).link.state = .connected ∧
    (start.run before).link.send (.bindTransceiver credentials.request) =
      (.ok handle, ((start.run before).move (.start (.bind credentials))).link) ∧
    ∀ between, between <+: since →
      (start.run (before ++ .start (.bind credentials) :: between)).call = .awaiting .bind handle

theorem run_concat (session : Session) (moves : List Move) (move : Move) :
    session.run (moves ++ [move]) = (session.run moves).move move := by
  rw [run_append, run_cons, run_nil]

theorem Binds.concat {moves : List Move} {handle : PendingHandle} (binds : start.Binds moves handle)
    (waiting : (start.run (moves ++ [move])).call = .awaiting .bind handle) :
    start.Binds (moves ++ [move]) handle := by
  obtain ⟨before, credentials, since, rfl, connected, sent, waited⟩ := binds
  rw [List.append_assoc, List.cons_append] at waiting ⊢
  refine ⟨before, credentials, since ++ [move], rfl, connected, sent, fun between starts => ?_⟩
  rcases List.prefix_concat_iff.mp starts with rfl | earlier
  · exact waiting
  · exact waited between earlier

theorem Signals.waiting_cases {handle : PendingHandle} (signals : session.Signals move after)
    (waiting : after.call = .awaiting .bind handle) :
    session.call = .awaiting .bind handle ∨
      ∃ credentials, move = .start (.bind credentials) ∧ session.link.state = .connected ∧
        session.link.send (.bindTransceiver credentials.request) = (.ok handle, after.link) := by
  cases signals with
  | sends _ _ call =>
      rcases call with same | idle
      · exact Or.inl (same ▸ waiting)
      · exact absurd waiting (Call.ne_of_idle idle rfl)
  | binds _ connected sent =>
      cases waiting
      exact Or.inr ⟨_, rfl, connected, sent⟩
  | accepts _ _ _ _ _ _ idle => exact absurd waiting (Call.ne_of_idle idle rfl)
  | unbinds _ _ _ _ call =>
      rw [call] at waiting
      cases waiting
  | departs _ _ departs _ =>
      rcases departs.parting with ⟨⟨result, leaving⟩, _⟩ | ⟨idle, _⟩
      · rw [leaving] at waiting
        cases waiting
      · exact absurd waiting (Call.ne_of_idle idle rfl)
  | left _ _ _ _ _ idle => exact absurd waiting (Call.ne_of_idle idle rfl)
  | alarms _ _ _ call => exact Or.inl (call ▸ waiting)
  | ends _ _ _ _ _ call => exact Or.inl (call ▸ waiting)

theorem binds_of_waiting {moves : List Move} {handle : PendingHandle}
    (idle : start.call.isDeciding = false)
    (waiting : (start.run moves).call = .awaiting .bind handle) : start.Binds moves handle := by
  induction moves using List.reverseRecOn generalizing handle with
  | nil =>
      rw [run_nil] at waiting
      rw [waiting] at idle
      cases idle
  | append_singleton moves move ih =>
      have last := waiting
      rw [run_concat] at last
      -- The call waited before the last move, or it was made in it.
      rcases ((start.run moves).signals_move move).waiting_cases last with
        earlier | ⟨credentials, rfl, connected, sent⟩
      · exact (ih earlier).concat waiting
      · refine ⟨moves, credentials, [], rfl, connected, sent, fun between starts => ?_⟩
        rw [List.prefix_nil.mp starts]
        exact waiting

/-- A bind call goes on with its answer. The response came under the number of its request, it was the
first one, and it accepts. -/
def AcceptsBind (start : Session) (moves : List Move) (move : Move) : Prop :=
  ∃ handle frame earlier later, start.Binds earlier handle ∧
    moves = earlier ++ .hear (.frame frame) :: later ∧ (start.run earlier).listener = .reading ∧
    frame.sequence = handle.sequence ∧ frame.commandId = .bindTransceiverResp ∧
    frame.status.isOk = true ∧ (start.run moves).call = .awaiting .bind handle ∧
    (start.run moves).link.pending.outcome? handle = some (.ok frame) ∧
    (move = .resume ∨ move = .giveUp)

theorem heard_of_answered {moves : List Move} {handle : PendingHandle} {frame : Frame}
    (ticketed : start.link.pending.Ticketed) (binds : start.Binds moves handle)
    (answered : (start.run moves).link.pending.outcome? handle = some (.ok frame)) :
    ∃ earlier later, start.Binds earlier handle ∧ moves = earlier ++ .hear (.frame frame) :: later ∧
      (start.run earlier).listener = .reading ∧ frame.sequence = handle.sequence := by
  obtain ⟨before, credentials, since, rfl, connected, sent, waited⟩ := binds
  obtain ⟨request, waits, rfl⟩ := Link.waits_of_send sent
  have ran : ∀ moves, start.run (before ++ .start (.bind credentials) :: moves) =
      ((start.run before).move (.start (.bind credentials))).run moves := by
    intro moves
    rw [run_append, run_cons]
  have sentTicketed : ((start.run before).move (.start (.bind credentials))).link.pending.Ticketed :=
    (ticketed.evolves (start.evolves_run before)).evolves (evolves_move _ _)
  rw [ran] at answered
  obtain ⟨earlier, later, rfl, _, reading, sequence⟩ := heard_of_resolved sentTicketed waits answered
  refine ⟨before ++ .start (.bind credentials) :: earlier, later, ?_, ?_, ?_, sequence⟩
  · refine ⟨before, credentials, earlier, rfl, connected, sent, fun between starts => ?_⟩
    exact waited between (starts.trans (List.prefix_append _ _))
  · rw [List.append_assoc, List.cons_append]
  · rw [ran]
    exact reading

theorem acceptsBind_of_answered {moves : List Move} {handle : PendingHandle} {frame : Frame} {answer : Answer}
    (ticketed : start.link.pending.Ticketed) (idle : start.call.isDeciding = false)
    (going : move = .resume ∨ move = .giveUp) (waiting : (start.run moves).call = .awaiting .bind handle)
    (answered : (start.run moves).link.pending.outcome? handle = some (.ok frame))
    (accepted : Purpose.bind.judge frame = .ok answer) : start.AcceptsBind moves move := by
  have binds := binds_of_waiting idle waiting
  obtain ⟨earlier, later, heard, same, reading, sequence⟩ := heard_of_answered ticketed binds answered
  obtain ⟨response, success⟩ := Purpose.judge_ok accepted
  exact ⟨handle, frame, earlier, later, heard, same, reading, sequence, response, success, waiting,
    answered, going⟩

def PassesUnbound (session : Session) (move : Move) : Prop :=
  session.Leaves move ∧ move = .start .unbind ∧ session.link.state = .bound ∨ session.AnswersUnbind move

theorem IsOrderly.connected_of_answers (orderly : session.IsOrderly) (answers : session.AnswersUnbind move) :
    session.link.state ≠ .disconnected := by
  obtain ⟨_, frame, ending, _, _, _, written⟩ := answers
  intro disconnected
  cases wrote : session.link.write (Listener.answerTo frame ending.status) with
  | mk outcome link =>
      rw [wrote] at written
      rcases session.link.write_cases (Listener.answerTo frame ending.status) with
        ⟨writer, done, _⟩ | ⟨error, _, same⟩ | ⟨reason, writer, _, same⟩
      · exact Outbound.not_written_of_mute (orderly.severed disconnected) done
      · rw [wrote] at same
        cases same
        cases written
      · rw [wrote] at same
        cases same
        cases written

theorem Signals.state_cases (orderly : session.IsOrderly) (signals : session.Signals move after) :
    session.link.state.Goes after.link.state ∧ (after.link.state = .bound → session.link.state = .bound) ∨
    ∃ handle frame answer, (move = .resume ∨ move = .giveUp) ∧ session.call = .awaiting .bind handle ∧
      session.link.pending.outcome? handle = some (.ok frame) ∧
      Purpose.bind.judge frame = .ok answer ∧ after.link.state = .bound ∧
      (session.link.state = .connected ∨ session.link.state = .disconnected) := by
  cases signals with
  | sends sends _ _ => exact Or.inl (SessionState.goes_of_same sends.state_eq)
  | binds _ _ sent => exact Or.inl (SessionState.goes_of_same (Link.sends_of_send sent).state_eq)
  | accepts going waiting resolved accepted link _ _ =>
      refine Or.inr ⟨_, _, _, going, waiting, resolved, accepted, ?_, orderly.binding _ waiting⟩
      rw [link]
      rfl
  | unbinds _ bound sends _ _ => exact Or.inl (SessionState.goes_of_bound bound sends.state_eq)
  | @departs _ middle _ _ before departs _ =>
      rcases departs.parting with ⟨_, alike⟩ | ⟨_, alike⟩
      · have same : after.link.state = middle.state := alike.state
        rw [same]
        rcases before with sends | ⟨bound, sends⟩
        · exact Or.inl (SessionState.goes_of_same sends.state_eq)
        · exact Or.inl (SessionState.goes_of_bound bound sends.state_eq)
      · exact Or.inl (SessionState.goes_of_same (Or.inr alike.state))
  | left _ link _ _ _ _ => exact Or.inl (SessionState.goes_of_same (Or.inr link.state))
  | @alarms _ middle _ sends link _ _ =>
      rw [link]
      exact Or.inl (SessionState.goes_of_same sends.state_eq)
  | ends _ _ state _ _ _ => exact Or.inl (SessionState.goes_of_same (Or.inr state))

theorem state_conclude_bind {outcome : Outcome} {answer : Answer}
    (accepted : outcome.bind Purpose.bind.judge = .ok answer) :
    (session.conclude .bind outcome).link.state = .bound := by
  unfold conclude
  rw [accepted]
  rfl

theorem state_of_acceptsBind {moves : List Move} (accepts : start.AcceptsBind moves move) :
    ((start.run moves).move move).link.state = .bound := by
  obtain ⟨handle, frame, _, _, _, _, _, _, response, success, waiting, answered, going⟩ := accepts
  have own : frame.commandId = Purpose.bind.response := response
  obtain ⟨answer, accepted, _⟩ := Purpose.judge_of_ok own success
  rcases going with rfl | rfl
  · simp only [Session.move, resume, waiting, answered]
    exact state_conclude_bind accepted
  · have resolved : ((start.run moves).link.giveUp handle).1 = .ok frame := by
      simp only [Link.giveUp, PendingTable.giveUp, answered]
    simp only [Session.move, giveUp, waiting, resolved]
    exact state_conclude_bind accepted

theorem state_of_passesUnbound (passes : session.PassesUnbound move) :
    SessionState.unbound.Goes (session.move move).link.state := by
  rcases passes with ⟨⟨free, _⟩, rfl, bound⟩ | ⟨handler, frame, ending, handling, unbind, rfl, written⟩
  · rw [move_start free]
    simp only [Session.start, if_pos bound]
    rcases ({ session with link := session.link.setState .unbound } : Session).await_cases
        .unbind .unbind with
      ⟨handle, link, sent, same⟩ | ⟨result, link, sends, ⟨impossible, _⟩ | ⟨_, same⟩⟩
    · rw [same]
      exact (SessionState.goes_of_same (Link.sends_of_send sent).state_eq).1
    · exact absurd rfl impossible
    · have departs := departs_startLeaving ({ session with link } : Session) result
      rw [same]
      rcases departs.parting with ⟨_, alike⟩ | ⟨_, alike⟩
      · rw [alike.state]
        exact (SessionState.goes_of_same sends.state_eq).1
      · rw [alike.state]
        exact Or.inr (.disconnect _)
  · have request : frame.isResponse = false := by
      rw [Frame.isResponse, Frame.commandId, unbind]
      rfl
    cases wrote : session.link.write (Listener.answerTo frame ending.status) with
    | mk outcome link =>
        rw [wrote] at written
        cases written
        simp only [Session.move, handling, Listener.handled, request, wrote, unbind]
        exact Or.inr (.disconnect _)

structure Proceeds (start : Session) (moves : List Move) (move : Move) : Prop where
  led : (start.run moves).link.state.Goes ((start.run moves).move move).link.state ∨
    (start.run moves).link.state = .disconnected ∧ start.AcceptsBind moves move
  bound : ((start.run moves).move move).link.state = .bound →
    (start.run moves).link.state = .bound ∨ start.AcceptsBind moves move
  accepted : start.AcceptsBind moves move → ((start.run moves).move move).link.state = .bound
  passing : (start.run moves).PassesUnbound move →
    (start.run moves).link.state.Goes .unbound ∧
      SessionState.unbound.Goes ((start.run moves).move move).link.state

/-- In every order of events the state goes on as it should, except that a bind which was answered is
accepted whenever its call goes on, be the session disconnected or not. Nothing else makes a session
bound. -/
theorem state_proceeds (config : SessionConfig) (handlers : HandlerTable) (sink : Sink) (moves : List Move)
    (move : Move) : (starting config handlers sink).Proceeds moves move := by
  have orderly := (orderly_starting config handlers sink).run moves
  have accepts : ∀ {handle frame answer}, (move = .resume ∨ move = .giveUp) →
      ((starting config handlers sink).run moves).call = .awaiting .bind handle →
      ((starting config handlers sink).run moves).link.pending.outcome? handle = some (.ok frame) →
      Purpose.bind.judge frame = .ok answer → (starting config handlers sink).AcceptsBind moves move :=
    fun going waiting answered accepted =>
      acceptsBind_of_answered PendingTable.ticketed_new rfl going waiting answered accepted
  have cases := ((Session.run _ moves).signals_move move).state_cases orderly
  refine ⟨?_, ?_, state_of_acceptsBind, fun passes => ⟨?_, state_of_passesUnbound passes⟩⟩
  · rcases cases with ⟨goes, _⟩ | ⟨handle, frame, answer, going, waiting, answered, accepted, bound, before⟩
    · exact Or.inl goes
    · rcases before with connected | disconnected
      · rw [connected, bound]
        exact Or.inl (Or.inr .bind)
      · exact Or.inr ⟨disconnected, accepts going waiting answered accepted⟩
  · intro bound
    rcases cases with ⟨_, before⟩ | ⟨handle, frame, answer, going, waiting, answered, accepted, _, _⟩
    · exact Or.inl (before bound)
    · exact Or.inr (accepts going waiting answered accepted)
  · rcases passes with ⟨_, _, bound⟩ | answers
    · exact (SessionState.goes_of_bound bound (Or.inl rfl)).1
    · exact SessionState.goes_unbound (orderly.connected_of_answers answers)

/-- The SMS centre accepts a bind and sends four octets of nonsense behind that. The session is over by
the time the call goes on, and then it is bound. -/
theorem bound_after_disconnected :
    let session := (starting {} .standard {}).run
      [.start (.bind { systemId := "esme" }), .hear (.frame ⟨.ok, 1, .bindTransceiverResp {}⟩),
       .handled .overran, .hear (.desync (.invalidLength 4 16 65536))]
    session.listener = .ended (.error (.protocolViolation (.invalidLength 4 16 65536))) ∧
      session.link.state = .disconnected ∧ (session.move .resume).link.state = .bound ∧
      ¬ SessionState.disconnected.Goes .bound := by
  refine ⟨rfl, rfl, by decide +kernel, ?_⟩
  rintro (impossible | impossible) <;> cases impossible

end Session

end Smpp
