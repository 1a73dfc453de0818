import Smpp.Proofs.Session.Lifecycle

/-!
How a session is closed. The call that closes it may wait for the answer to an unbind, and then it waits
for the listener, for each of them only so long. Whatever happens meanwhile, the session is over when the
call returns; and a session that is over stays so, whatever happens to it.
-/

namespace Smpp

namespace Link

variable {link before after : Link}

/-- A writer that is closed writes nothing, an empty table stays as it is, and a session that is
disconnected behind a closed writer remains disconnected. -/
structure Rests (before after : Link) : Prop where
  writer : before.writer.isClosed = true → after.writer = before.writer
  pending : before.pending.requests = [] → after.pending = before.pending
  state : before.writer.isClosed = true → before.state = .disconnected → after.state = .disconnected

theorem rests_of_same (writer : after.writer = before.writer) (pending : after.pending = before.pending)
    (state : after.state = before.state ∨ after.state = .disconnected) : before.Rests after where
  writer _ := writer
  pending _ := pending
  state _ disconnected := state.elim (fun same => same.trans disconnected) id

theorem Rests.refl (link : Link) : link.Rests link := rests_of_same rfl rfl (Or.inl rfl)

theorem Rests.trans {first second third : Link} (earlier : first.Rests second) (later : second.Rests third) :
    first.Rests third where
  writer closed := by
    have same := earlier.writer closed
    rw [← same] at closed ⊢
    exact later.writer closed
  pending empty := by
    have same := earlier.pending empty
    rw [← same] at empty ⊢
    exact later.pending empty
  state closed disconnected := by
    have middle := earlier.state closed disconnected
    rw [← earlier.writer closed] at closed
    exact later.state closed middle

theorem rests_retire (link : Link) (leaves : PendingRequest → Bool) (outcome : Outcome) :
    link.Rests { link with pending := (link.pending.retire leaves outcome).2 } where
  writer _ := rfl
  pending empty := by
    have none : ∀ request ∈ link.pending.requests, leaves request = false := by
      rw [empty]
      nofun
    rw [PendingTable.retire_of_none none]
  state _ disconnected := disconnected

theorem rests_complete (link : Link) (sequence : UInt32) (outcome : Outcome) :
    link.Rests (link.complete sequence outcome).2 := link.rests_retire _ _

theorem rests_giveUp (link : Link) (handle : PendingHandle) : link.Rests (link.giveUp handle).2 := by
  unfold giveUp PendingTable.giveUp
  cases link.pending.outcome? handle with
  | some outcome => exact .refl link
  | none => exact link.rests_complete handle.sequence _

theorem rests_write (link : Link) (frame : Frame) : link.Rests (link.write frame).2 := by
  rcases link.write_cases frame with
    ⟨writer, written, same⟩ | ⟨error, _, same⟩ | ⟨reason, writer, refused, same⟩
  · rw [same]
    exact ⟨fun closed => absurd written (Outbound.not_written_of_closed closed), fun _ => rfl, fun _ => id⟩
  · rw [same]
    exact .refl link
  · rw [same]
    refine ⟨fun closed => ?_, fun _ => rfl, fun _ _ => rfl⟩
    have unchanged := Outbound.write_of_closed closed frame
    rwa [refused] at unchanged

theorem rests_closeTransport (link : Link) : link.Rests link.closeTransport where
  writer closed := by rw [closeTransport, Outbound.shutdown_of_closed closed]
  pending _ := rfl
  state _ := id

theorem rests_failAll (link : Link) : link.Rests (link.failAll.setState .disconnected) :=
  (link.rests_retire _ _).trans (rests_of_same rfl rfl (Or.inr rfl))

theorem rests_tearDown (link : Link) : link.Rests link.tearDown :=
  link.rests_failAll.trans (rests_closeTransport _)

theorem lost_of_unsent {body : Body} {error : SessionError} (ticketed : link.pending.Ticketed)
    (failed : link.send body = (.error error, after)) :
    (link.register body.commandId).2.pending.Evolves (fun _ => True) after.pending ∧
      after.pending.outcome? (link.register body.commandId).1 = some (.error .connectionLost) := by
  have registered : (link.register body.commandId).2.pending.Ticketed := ticketed.register _ _
  rcases link.send_cases body with ⟨writer, _, same⟩ | ⟨found, other, same, withdrawn⟩
  · rw [same] at failed
    cases failed
  · rw [same] at failed
    cases failed
    rw [withdrawn]
    refine ⟨.retire .refl _ trivial, ?_⟩
    exact registered.outcome?_of_leaving List.mem_cons_self (beq_self_eq_true _)

end Link

namespace Listener

variable {link : Link}

theorem rests_reply (link : Link) (answer : Frame) : link.Rests (reply link answer).1 := by
  have rests := link.rests_write answer
  unfold reply
  split
  · rename_i written
    rw [written] at rests
    exact rests
  · rename_i failed
    rw [failed] at rests
    exact rests.trans (Link.rests_tearDown _)

theorem rests_hear (link : Link) (event : Inbound.Event) : link.Rests (hear link event).1 := by
  cases event with
  | frame frame =>
      simp only [hear, onFrame]
      split
      · have rests := link.rests_complete frame.sequence (.ok frame)
        split
        · exact rests.trans (Link.rests_of_same rfl rfl (Or.inl rfl))
        · exact rests
      · exact Link.rests_of_same rfl rfl (Or.inl rfl)
  | malformed header error =>
      simp only [hear, onMalformed]
      split
      · exact link.rests_complete _ _
      · exact rests_reply link _
  | desync error => exact link.rests_tearDown
  | closed => exact link.rests_tearDown
  | cutOff octets => exact link.rests_tearDown

theorem rests_handled (link : Link) (frame : Frame) (ending : HandlerEnd) :
    link.Rests (handled link frame ending).1 := by
  have rests := link.rests_write (answerTo frame ending.status)
  unfold handled
  split
  · exact .refl link
  · split
    · rename_i failed
      rw [failed] at rests
      exact rests.trans (Link.rests_tearDown _)
    · rename_i after written
      rw [written] at rests
      split
      · -- The state in between does not matter, since the end of the listener publishes another one.
        have torn := (after.setState .unbound).rests_tearDown
        exact rests.trans ⟨torn.writer, torn.pending, fun _ _ => rfl⟩
      · exact rests

theorem rests_stop (link : Link) : link.Rests (stop link).1 := by
  unfold stop
  split
  · have taken : link.Rests link.takeClose.2 := Link.rests_of_same rfl rfl (Or.inl rfl)
    exact taken.trans (Link.rests_tearDown _)
  · exact .refl link

end Listener

def Outcome.Agrees (outcome : Outcome) : Prop :=
  ∃ frame, outcome = .ok frame ∧ frame.commandId = .unbindResp ∧ frame.status.isOk = true

theorem Outcome.not_agrees (error : SessionError) : ¬ Outcome.Agrees (.error error) := by
  rintro ⟨_, impossible, _⟩
  cases impossible

theorem Outcome.judge_unbind (outcome : Outcome) :
    outcome.bind Purpose.unbind.judge = .ok .done ↔ Outcome.Agrees outcome := by
  cases outcome with
  | error error =>
      refine iff_of_false ?_ (Outcome.not_agrees error)
      intro impossible
      cases impossible
  | ok frame =>
      have agrees : Purpose.unbind.judge frame = .ok .done ↔
          frame.commandId = .unbindResp ∧ frame.status.isOk = true := Purpose.judge_done (by decide) frame
      refine agrees.trans ⟨fun agreed => ⟨frame, rfl, agreed⟩, ?_⟩
      rintro ⟨found, same, agreed⟩
      cases same
      exact agreed

def Request.isForPeer : Request → Bool
  | bind _ | submit .. | sendMessage .. | enquireLink => true
  | messageId _ | unbind | disconnect | waitClosed => false

def Call.isAwaiting : Call → Bool
  | awaiting .. => true
  | none | leaving _ | joining | returned _ => false

namespace Session

variable {session after : Session} {move : Move}

theorem rests_of_listening (listening : move.isListening = true) :
    session.link.Rests (session.move move).link ∧ (session.move move).pinger = session.pinger := by
  cases move with
  | hear event =>
      simp only [Session.move]
      split
      · exact ⟨Listener.rests_hear _ _, rfl⟩
      · exact ⟨.refl _, rfl⟩
  | handled ending =>
      simp only [Session.move]
      split
      · exact ⟨Listener.rests_handled _ _ _, rfl⟩
      · exact ⟨.refl _, rfl⟩
  | stop =>
      simp only [Session.move]
      split
      · exact ⟨Listener.rests_stop _, rfl⟩
      · exact ⟨.refl _, rfl⟩
  | sweep =>
      simp only [Session.move]
      split
      · exact ⟨session.link.rests_retire _ _, rfl⟩
      · exact ⟨.refl _, rfl⟩
  | _ => cases listening

def Move.isCalling : Move → Bool
  | start _ | resume | giveUp | drop => true
  | _ => false

theorem move_of_other (session : Session) (other : move.isCalling = false) :
    ∃ link listener pinger, session.move move = { session with link, listener, pinger } := by
  cases move with
  | hear event =>
      simp only [Session.move]
      split <;> exact ⟨_, _, _, rfl⟩
  | handled ending =>
      simp only [Session.move]
      split <;> exact ⟨_, _, _, rfl⟩
  | stop =>
      simp only [Session.move]
      split <;> exact ⟨_, _, _, rfl⟩
  | sweep =>
      simp only [Session.move]
      split <;> exact ⟨_, _, _, rfl⟩
  | ask =>
      simp only [Session.move]
      split <;> exact ⟨_, _, _, rfl⟩
  | learn =>
      simp only [Session.move]
      split
      · split <;> exact ⟨_, _, _, rfl⟩
      · exact ⟨_, _, _, rfl⟩
  | miss =>
      simp only [Session.move]
      split <;> exact ⟨_, _, _, rfl⟩
  | age time => exact ⟨_, _, _, rfl⟩
  | _ => cases other

theorem call_move (other : move.isCalling = false) : (session.move move).call = session.call := by
  obtain ⟨link, listener, pinger, same⟩ := session.move_of_other other
  rw [same]

theorem rests_of_off (off : session.pinger.phase = .off) (other : move.isCalling = false) :
    session.link.Rests (session.move move).link ∧ (session.move move).pinger.phase = .off := by
  cases listening : move.isListening with
  | true =>
      obtain ⟨rests, pinger⟩ := session.rests_of_listening listening
      rw [pinger]
      exact ⟨rests, off⟩
  | false =>
      cases move with
      | ask =>
          simp only [Session.move, off]
          exact ⟨.refl _, trivial⟩
      | learn =>
          simp only [Session.move, off]
          exact ⟨.refl _, trivial⟩
      | miss =>
          simp only [Session.move, off]
          exact ⟨.refl _, trivial⟩
      | age time => exact ⟨Link.rests_of_same rfl rfl (Or.inl rfl), off⟩
      | start request => cases other
      | resume => cases other
      | giveUp => cases other
      | drop => cases other
      | _ => cases listening

/-- Nothing is written or waited for any more, and only somebody who has kept a handle may still ask what
has become of it. -/
structure IsOver (session : Session) : Prop where
  state : session.link.state = .disconnected
  closed : session.link.writer.isClosed = true
  empty : session.link.pending.requests = []
  off : session.pinger.phase = .off
  idle : ∀ purpose handle, session.call = .awaiting purpose handle → purpose = .messageId

structure Remains (before after : Session) : Prop where
  rests : before.link.Rests after.link
  off : after.pinger.phase = .off
  idle : ∀ purpose handle, after.call = .awaiting purpose handle → purpose = .messageId

theorem IsOver.remains (ended : session.IsOver) (remains : session.Remains after) : after.IsOver where
  state := remains.rests.state ended.closed ended.state
  closed := by
    rw [remains.rests.writer ended.closed]
    exact ended.closed
  empty := by
    rw [remains.rests.pending ended.empty]
    exact ended.empty
  off := remains.off
  idle := remains.idle

theorem IsOver.refuses (ended : session.IsOver) {request : Request} (peer : request.isForPeer = true) :
    ∃ error, session.start request = session.returning (.error error) := by
  have state := ended.state
  cases request with
  | bind credentials =>
      simp only [Session.start, state, reduceCtorEq, if_false]
      exact ⟨_, rfl⟩
  | submit source destination segment wantsReceipt =>
      simp only [Session.start, Link.submit, state, reduceCtorEq, if_false]
      exact ⟨_, rfl⟩
  | sendMessage source destination text =>
      simp only [Session.start, state, reduceCtorEq, if_false]
      exact ⟨_, rfl⟩
  | enquireLink =>
      simp only [Session.start, state, if_true]
      exact ⟨_, rfl⟩
  | _ => cases peer

theorem rests_startLeaving (session : Session) (result : Result) :
    session.link.Rests (session.startLeaving result).link ∧
      (session.startLeaving result).pinger.phase = .off ∧
      ((session.startLeaving result).call = .leaving result ∨
        (session.startLeaving result).call = .returned result) := by
  have asked : session.link.Rests (session.link.requestClose none) := Link.rests_of_same rfl rfl (Or.inl rfl)
  have closed := asked.trans (Link.rests_closeTransport _)
  unfold startLeaving
  dsimp only
  split
  · exact ⟨closed, rfl, Or.inl rfl⟩
  · exact ⟨closed.trans (Link.rests_failAll _), rfl, Or.inr rfl⟩

theorem isAwaiting_startLeaving (session : Session) (result : Result) :
    (session.startLeaving result).call.isAwaiting = false := by
  rcases (session.rests_startLeaving result).2.2 with leaving | returned
  · rw [leaving]
    rfl
  · rw [returned]
    rfl

theorem remains_of_call (rests : session.link.Rests after.link) (off : after.pinger.phase = .off)
    (idle : after.call.isAwaiting = false) : session.Remains after := by
  refine ⟨rests, off, fun purpose handle waiting => ?_⟩
  rw [waiting] at idle
  cases idle

theorem remains_startLeaving (session : Session) (result : Result) :
    session.Remains (session.startLeaving result) := by
  obtain ⟨rests, off, _⟩ := session.rests_startLeaving result
  exact remains_of_call rests off (session.isAwaiting_startLeaving result)

theorem IsOver.start (ended : session.IsOver) (request : Request) : session.Remains (session.start request) := by
  by_cases peer : request.isForPeer = true
  · obtain ⟨error, same⟩ := ended.refuses peer
    rw [same]
    exact remains_of_call (.refl _) ended.off rfl
  · cases request with
    | messageId handle =>
        refine ⟨.refl _, ended.off, fun purpose waited waiting => ?_⟩
        cases waiting
        rfl
    | unbind =>
        have state := ended.state
        simp only [Session.start, state, reduceCtorEq, if_false]
        exact remains_startLeaving session _
    | disconnect => exact remains_startLeaving session _
    | waitClosed =>
        simp only [Session.start]
        split
        · exact remains_of_call (.refl _) ended.off rfl
        · exact remains_of_call (.refl _) ended.off rfl
    | _ => exact absurd rfl peer

theorem IsOver.conclude (ended : session.IsOver) {purpose : Purpose} {handle : PendingHandle} {link : Link}
    (waiting : session.call = .awaiting purpose handle) (rests : session.link.Rests link)
    (outcome : Outcome) : session.Remains (({ session with link } : Session).conclude purpose outcome) := by
  have kept : purpose = .messageId := ended.idle purpose handle waiting
  subst kept
  exact remains_of_call rests ended.off rfl

theorem IsOver.step (ended : session.IsOver) (move : Move) : session.Remains (session.move move) := by
  have unchanged : session.Remains session := ⟨.refl _, ended.off, ended.idle⟩
  cases calling : move.isCalling with
  | false =>
      -- Without a keep-alive nobody but the listener can act on the link.
      obtain ⟨rests, off⟩ := rests_of_off ended.off calling
      refine ⟨rests, off, ?_⟩
      rw [call_move calling]
      exact ended.idle
  | true =>
      cases move with
      | start request =>
          simp only [Session.move]
          split
          · exact unchanged
          · exact ended.start request
      | resume =>
          simp only [Session.move, resume]
          split
          · rename_i purpose handle waiting
            split
            · exact ended.conclude waiting (.refl _) _
            · exact unchanged
          · exact remains_of_call (Link.rests_failAll _) ended.off rfl
          · exact remains_of_call (.refl _) rfl rfl
          · exact unchanged
      | giveUp =>
          simp only [Session.move, giveUp]
          split
          · rename_i purpose handle waiting
            exact ended.conclude waiting (session.link.rests_giveUp handle) _
          · exact remains_of_call (Link.rests_failAll _) ended.off rfl
          · exact unchanged
          · exact unchanged
          · exact unchanged
      | drop =>
          simp only [Session.move]
          split
          · exact remains_of_call (.refl _) ended.off rfl
          · exact unchanged
      | _ => cases calling

theorem IsOver.run (ended : session.IsOver) (moves : List Move) :
    (session.run moves).IsOver ∧ session.link.Rests (session.run moves).link := by
  induction moves generalizing session with
  | nil => exact ⟨ended, .refl _⟩
  | cons move moves ih =>
      have remains := ended.step move
      obtain ⟨last, rests⟩ := ih (ended.remains remains)
      exact ⟨last, remains.rests.trans rests⟩

def unbinding? (session : Session) : Request → Option PendingHandle
  | .unbind => if session.link.state = .bound then some (session.link.register .unbind).1 else none
  | _ => none

/-- What a call that closes a session has come to: without an unbind of its own it ends well, and otherwise
as the answer has it. -/
inductive Judged (table : PendingTable) : Option PendingHandle → Result → Prop
  | unasked : Judged table none (.ok .done)
  | answered {own : PendingHandle} {outcome : Outcome} {result : Result}
      (resolved : table.outcome? own = some outcome) (judged : result = .ok .done ↔ Outcome.Agrees outcome) :
      Judged table (some own) result

theorem Judged.evolves {kind : Outcome → Prop} {before after : PendingTable} {own : Option PendingHandle}
    {result : Result} (judged : Judged before own result) (ticketed : before.Ticketed)
    (evolves : before.Evolves kind after) : Judged after own result := by
  cases judged with
  | unasked => exact .unasked
  | answered resolved judged => exact .answered (evolves.outcome?_eq ticketed resolved) judged

inductive Closing (own : Option PendingHandle) (session : Session) : Prop
  | asking {handle : PendingHandle} (unbinding : own = some handle)
      (waiting : session.call = .awaiting .unbind handle)
      (stands : (∃ request ∈ session.link.pending.requests, request.handle = handle) ∨
        ∃ outcome, session.link.pending.outcome? handle = some outcome) : Closing own session
  | leaving {result : Result} (call : session.call = .leaving result)
      (closed : session.link.writer.isClosed = true) (off : session.pinger.phase = .off)
      (judged : Judged session.link.pending own result) : Closing own session
  | ended {result : Result} (call : session.call = .returned result) (ended : session.IsOver)
      (judged : Judged session.link.pending own result) : Closing own session

section

variable {own : Option PendingHandle} {result : Result}

theorem closing_leave (ticketed : session.link.pending.Ticketed)
    (closed : session.link.writer.isClosed = true) (off : session.pinger.phase = .off)
    (judged : Judged session.link.pending own result) : Closing own (session.leave result) := by
  have evolves : session.link.pending.Evolves (fun _ => True) (session.leave result).link.pending :=
    .retire .refl _ trivial
  refine .ended rfl ?_ (judged.evolves ticketed evolves)
  exact
    { state := rfl
      closed := closed
      empty := PendingTable.failAll_eq.2
      off := off
      idle := fun _ _ waiting => by cases waiting }

theorem closing_startLeaving (ticketed : session.link.pending.Ticketed)
    (judged : Judged session.link.pending own result) : Closing own (session.startLeaving result) := by
  have closed := (session.link.requestClose none).isClosed_closeTransport
  unfold startLeaving
  dsimp only
  split
  · exact .leaving rfl closed rfl judged
  · exact closing_leave ticketed closed rfl judged

theorem closing_conclude {handle : PendingHandle} {outcome : Outcome} (ticketed : session.link.pending.Ticketed)
    (resolved : session.link.pending.outcome? handle = some outcome) :
    Closing (some handle) (session.conclude .unbind outcome) :=
  closing_startLeaving ticketed (.answered resolved (Outcome.judge_unbind outcome))

theorem unbind_cases (ticketed : session.link.pending.Ticketed) (bound : session.link.state = .bound) :
    (∃ request ∈ (session.start .unbind).link.pending.requests,
      request.handle = (session.link.register .unbind).1 ∧
        (session.start .unbind).call = .awaiting .unbind request.handle) ∨
    ∃ link error, link.pending.Ticketed ∧
      link.pending.outcome? (session.link.register .unbind).1 = some (.error .connectionLost) ∧
      session.start .unbind = ({ session with link } : Session).startLeaving (.error error) := by
  simp only [Session.start, if_pos bound, await]
  rcases (session.link.setState .unbound).send_cases .unbind with
    ⟨writer, _, same⟩ | ⟨error, link, same, _⟩
  · rw [same]
    exact Or.inl ⟨_, List.mem_cons_self, rfl, rfl⟩
  · -- The unbind could not be written, and its request has been withdrawn.
    have before : (session.link.setState .unbound).pending.Ticketed := ticketed
    have registered : (session.link.register .unbind).2.pending.Ticketed := ticketed.register .unbind _
    obtain ⟨follows, lost⟩ := Link.lost_of_unsent before same
    rw [same]
    exact Or.inr ⟨link, error, registered.evolves follows, lost, rfl⟩

theorem closing_start {request : Request} (closes : request = .unbind ∨ request = .disconnect)
    (ticketed : session.link.pending.Ticketed) :
    Closing (session.unbinding? request) (session.start request) := by
  rcases closes with rfl | rfl
  · by_cases bound : session.link.state = .bound
    · rw [unbinding?, if_pos bound]
      rcases unbind_cases ticketed bound with
        ⟨request, waits, own, waiting⟩ | ⟨link, error, accounts, lost, same⟩
      · rw [← own]
        exact .asking rfl waiting (Or.inl ⟨request, waits, rfl⟩)
      · rw [same]
        refine closing_startLeaving accounts (.answered lost (iff_of_false ?_ (Outcome.not_agrees _)))
        intro impossible
        cases impossible
    · simp only [unbinding?, Session.start, if_neg bound]
      exact closing_startLeaving ticketed .unasked
  · exact closing_startLeaving ticketed .unasked

theorem Closing.resume (closing : session.Closing own) (ticketed : session.link.pending.Ticketed) :
    session.resume.Closing own := by
  cases closing with
  | asking unbinding waiting stands =>
      simp only [Session.resume, waiting]
      split
      · rename_i resolved
        rw [unbinding]
        exact closing_conclude ticketed resolved
      · exact .asking unbinding waiting stands
  | leaving call closed off judged =>
      have waiting : session.Closing own := .leaving call closed off judged
      cases listener : session.listener with
      | ended outcome =>
          simp only [Session.resume, call, listener]
          exact closing_leave ticketed closed off judged
      | reading =>
          simp only [Session.resume, call, listener]
          exact waiting
      | handling handler frame =>
          simp only [Session.resume, call, listener]
          exact waiting
  | ended call ended judged =>
      simp only [Session.resume, call]
      exact .ended call ended judged

theorem Closing.giveUp (closing : session.Closing own) (ticketed : session.link.pending.Ticketed) :
    session.giveUp.Closing own := by
  cases closing with
  | @asking handle unbinding waiting stands =>
      simp only [Session.giveUp, waiting]
      rw [unbinding]
      exact closing_conclude (ticketed.evolves (session.link.spares_giveUp handle).pending)
        (ticketed.outcome?_giveUp stands)
  | leaving call closed off judged =>
      simp only [Session.giveUp, call]
      exact closing_leave ticketed closed off judged
  | ended call ended judged =>
      simp only [Session.giveUp, call]
      exact .ended call ended judged

def Move.isPatient : Move → Bool
  | start _ | drop => false
  | _ => true

theorem Closing.step (closing : session.Closing own) (ticketed : session.link.pending.Ticketed)
    (patient : move.isPatient = true) : (session.move move).Closing own := by
  cases calling : move.isCalling with
  | true =>
      cases move with
      | resume => exact closing.resume ticketed
      | giveUp => exact closing.giveUp ticketed
      | start request => cases patient
      | drop => cases patient
      | _ => cases calling
  | false =>
      have evolves := session.evolves_move move
      have same : (session.move move).call = session.call := call_move calling
      cases closing with
      | asking unbinding waiting stands =>
          -- The others may answer the unbind or fail it, but they never forget it.
          refine .asking unbinding (same.trans waiting) ?_
          rcases stands with ⟨request, waits, rfl⟩ | ⟨outcome, resolved⟩
          · rcases evolves.waits_or_resolved ticketed waits with waits | ⟨outcome, _, resolved⟩
            · exact Or.inl ⟨request, waits, rfl⟩
            · exact Or.inr ⟨outcome, resolved⟩
          · exact Or.inr ⟨outcome, evolves.outcome?_eq ticketed resolved⟩
      | leaving call closed off judged =>
          obtain ⟨rests, stillOff⟩ := rests_of_off off calling
          refine .leaving (same.trans call) ?_ stillOff (judged.evolves ticketed evolves)
          rw [rests.writer closed]
          exact closed
      | ended call ended judged =>
          exact .ended (same.trans call) (ended.remains (ended.step move)) (judged.evolves ticketed evolves)

theorem Closing.run {moves : List Move} (closing : session.Closing own)
    (ticketed : session.link.pending.Ticketed) (patient : ∀ move ∈ moves, move.isPatient = true) :
    (session.run moves).Closing own := by
  induction moves generalizing session with
  | nil => exact closing
  | cons move moves ih =>
      have next := closing.step ticketed (patient move List.mem_cons_self)
      exact ih next (ticketed.evolves (session.evolves_move move))
        fun other later => patient other (List.mem_cons_of_mem _ later)

/-- The call waits at most twice: for the answer to an unbind, and for the listener. -/
theorem Closing.returns (closing : session.Closing own) :
    ∃ result, (session.run [.giveUp, .giveUp]).call = .returned result := by
  have left : ∀ {other : Session} {result : Result},
      other.call = .leaving result ∨ other.call = .returned result → other.giveUp.call = .returned result := by
    rintro other result (leaving | returned)
    · simp only [Session.giveUp, leaving, leave]
    · simp only [Session.giveUp, returned]
  simp only [run_cons, run_nil, Session.move]
  cases closing with
  | @asking handle unbinding waiting stands =>
      have first : session.giveUp =
          ({ session with link := (session.link.giveUp handle).2 } : Session).startLeaving
            ((session.link.giveUp handle).1.bind Purpose.unbind.judge) := by
        simp only [Session.giveUp, waiting]
        rfl
      rw [first]
      exact ⟨_, left (rests_startLeaving _ _).2.2⟩
  | leaving call closed off judged =>
      exact ⟨_, left (Or.inr (left (Or.inl call)))⟩
  | ended call ended judged =>
      exact ⟨_, left (Or.inr (left (Or.inr call)))⟩

end

/-- The SMS centre answers the unbind of a call with this frame: it is the first response under the number
of the unbind, and it comes while the unbind waits for one. -/
structure AnsweredBy (session : Session) (during : List Move) (frame : Frame) : Prop where
  sequence : frame.sequence = (session.link.register .unbind).1.sequence
  resolved : ((session.start .unbind).run during).link.pending.outcome? (session.link.register .unbind).1 =
    some (.ok frame)
  heard : ∃ earlier later, during = earlier ++ .hear (.frame frame) :: later ∧
    (session.start .unbind).Unanswered earlier frame.sequence

theorem answeredBy_of_resolved {during : List Move} {frame : Frame} (ticketed : session.link.pending.Ticketed)
    (bound : session.link.state = .bound)
    (resolved : ((session.start .unbind).run during).link.pending.outcome?
      (session.link.register .unbind).1 = some (.ok frame)) : session.AnsweredBy during frame := by
  have accounts : (session.start .unbind).link.pending.Ticketed :=
    ticketed.evolves (session.reaches_start .unbind fun _ => trivial).spares.pending
  rcases unbind_cases ticketed bound with ⟨request, waits, own, _⟩ | ⟨link, error, before, lost, same⟩
  · have answered := resolved
    rw [← own] at answered
    obtain ⟨earlier, later, same, unanswered, _, sequence⟩ := heard_of_resolved accounts waits answered
    refine ⟨?_, resolved, earlier, later, same, ?_⟩
    · rw [sequence, ← own]
      rfl
    · rw [sequence]
      exact unanswered
  · have kept : (session.start .unbind).link.pending.outcome? (session.link.register .unbind).1 =
        some (.error .connectionLost) := by
      rw [same]
      exact (reaches_startLeaving trivial .refl _).spares.pending.outcome?_eq before lost
    rw [outcome?_run accounts kept during] at resolved
    cases resolved

structure IsGone (session : Session) : Prop where
  ended : session.IsOver
  resolved : ∀ handle : PendingHandle, handle.ticket < session.link.pending.issued →
    ∃ outcome, session.link.pending.outcome? handle = some outcome
  lasting : ∀ later, (session.run later).IsOver ∧ (session.run later).link.pending = session.link.pending ∧
    (session.run later).link.writer = session.link.writer
  refused : ∀ later request, request.isForPeer = true → (session.run later).call.isUnderWay = false →
    ∃ error, (session.run later).move (.start request) = (session.run later).returning (.error error)

theorem IsOver.isGone (ended : session.IsOver) (ticketed : session.link.pending.Ticketed)
    (covers : session.link.pending.Covers) : session.IsGone where
  ended := ended
  resolved handle given := covers.resolved ticketed ended.empty given
  lasting later := by
    obtain ⟨last, rests⟩ := ended.run later
    exact ⟨last, rests.pending ended.empty, rests.writer ended.closed⟩
  refused later request peer free := by
    obtain ⟨error, same⟩ := (ended.run later).1.refuses peer
    refine ⟨error, ?_⟩
    rw [move_start free, same]

/-- The call has closed the session, and this is what it reports. -/
structure ClosedBy (session : Session) (request : Request) (during : List Move) (result : Result) : Prop where
  gone : ((session.start request).run during).IsGone
  judged : result = .ok .done ↔ request = .disconnect ∨ session.link.state ≠ .bound ∨
    ∃ frame, session.AnsweredBy during frame ∧ frame.commandId = .unbindResp ∧ frame.status.isOk = true

theorem judged_iff {request : Request} {during : List Move} {result : Result}
    (closes : request = .unbind ∨ request = .disconnect) (ticketed : session.link.pending.Ticketed)
    (judged : Judged ((session.start request).run during).link.pending (session.unbinding? request) result) :
    result = .ok .done ↔ request = .disconnect ∨ session.link.state ≠ .bound ∨
      ∃ frame, session.AnsweredBy during frame ∧ frame.commandId = .unbindResp ∧ frame.status.isOk = true := by
  rcases closes with rfl | rfl
  · by_cases bound : session.link.state = .bound
    · rw [unbinding?, if_pos bound] at judged
      cases judged with
      | @answered _ outcome _ resolved judged =>
          rw [judged]
          constructor
          · rintro ⟨frame, rfl, agreed⟩
            exact Or.inr (Or.inr ⟨frame, answeredBy_of_resolved ticketed bound resolved, agreed⟩)
          · rintro (impossible | unbound | ⟨frame, answered, agreed⟩)
            · cases impossible
            · exact absurd bound unbound
            · have same := resolved.symm.trans answered.resolved
              exact ⟨frame, Option.some.inj same, agreed⟩
    · rw [unbinding?, if_neg bound] at judged
      cases judged
      exact iff_of_true rfl (Or.inr (Or.inl bound))
  · cases judged
    exact iff_of_true rfl (Or.inl rfl)

/-- However a session is doing, and whatever the SMS centre and the transport do meanwhile, a call that
closes it comes to its end after two waits at most, and then the session is closed for good.

The transport may refuse what is written, but it never keeps a writer waiting. One that does could delay
the unbind, and it could have the transport stay open behind a writer that is not given back in time. -/
theorem closed_for_good (config : SessionConfig) (handlers : HandlerTable) (sink : Sink)
    (before during : List Move) (request : Request) (closes : request = .unbind ∨ request = .disconnect)
    (free : ((starting config handlers sink).run before).call.isUnderWay = false)
    (patient : ∀ move ∈ during, move.isPatient = true) :
    let session := (starting config handlers sink).run before
    (∃ result, (session.run (.start request :: (during ++ [.giveUp, .giveUp]))).call = .returned result) ∧
    ∀ result, (session.run (.start request :: during)).call = .returned result →
      session.ClosedBy request during result := by
  intro session
  have ticketed : session.link.pending.Ticketed :=
    PendingTable.ticketed_new.evolves (evolves_run (starting config handlers sink) before)
  have covers : session.link.pending.Covers :=
    PendingTable.covers_new.evolves (evolves_run (starting config handlers sink) before)
  have began : session.move (.start request) = session.start request := move_start free request
  have evolves := (session.reaches_start request fun _ => trivial).spares.pending
  have closing : ((session.start request).run during).Closing (session.unbinding? request) :=
    (closing_start closes ticketed).run (ticketed.evolves evolves) patient
  simp only [run_cons, run_append, began]
  refine ⟨closing.returns, fun result returned => ?_⟩
  have whole := evolves_run (session.start request) during
  cases closing with
  | asking _ waiting _ =>
      rw [waiting] at returned
      cases returned
  | leaving call _ _ _ =>
      rw [call] at returned
      cases returned
  | ended call ended judged =>
      rw [call] at returned
      cases returned
      exact ⟨ended.isGone ((ticketed.evolves evolves).evolves whole) ((covers.evolves evolves).evolves whole),
        judged_iff closes ticketed judged⟩

def servingMoves : List Move :=
  [.start (.bind { systemId := "esme", password := "secret" }),
   .hear (.frame ⟨.ok, 1, .bindTransceiverResp {}⟩), .handled (.returned .ok), .resume,
   .start (.submit "Sender" "447700900123"
     { payload := [0x48], dataCoding := .gsm, header := none, units := 1 } false)]

def partingMoves : List Move :=
  [.hear (.frame ⟨.ok, 3, .unbindResp⟩), .handled (.returned .ok), .resume, .stop, .resume]

theorem closed_for_good_sample :
    let session := (starting {} .standard {}).run servingMoves
    session.call.isUnderWay = false ∧ session.link.pending.issued = 2 ∧
      (session.run (.start .unbind :: partingMoves)).call = .returned (.ok .done) ∧
      session.ClosedBy .unbind partingMoves (.ok .done) := by
  have free : ((starting {} .standard {}).run servingMoves).call.isUnderWay = false := by decide +kernel
  have patient : ∀ move ∈ partingMoves, move.isPatient = true := by
    simp only [partingMoves, List.forall_mem_cons, List.not_mem_nil, false_implies, implies_true, and_true]
    decide
  have returned : (((starting {} .standard {}).run servingMoves).run (.start .unbind :: partingMoves)).call =
      .returned (.ok .done) := rfl
  exact ⟨free, by decide +kernel, returned,
    (closed_for_good {} .standard {} servingMoves partingMoves .unbind (Or.inl rfl) free patient).2 _ returned⟩

end Session

end Smpp
