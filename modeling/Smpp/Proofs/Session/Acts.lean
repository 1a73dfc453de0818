import Smpp.Session.Session

/-!
What the tasks of a session do to what they share. Each move, but for what the listener takes up and
for its stopping, is made of a few acts on the link; what no act changes, no such move changes. Some acts
are only done when the application has left the session.
-/

namespace Smpp

namespace Link

/-- What a task does to the link in one go. -/
inductive Act
  | write (frame : Frame)
  | register (commandId : CommandId)
  | withdraw (handle : PendingHandle)
  | giveUp (handle : PendingHandle)
  | failAll
  | sweep
  | setState (state : SessionState)
  | requestClose (reason : Option SessionError)
  | closeTransport
  | wait (time : Nat)

def perform (link : Link) : Act → Link
  | .write frame => (link.write frame).2
  | .register commandId => (link.register commandId).2
  | .withdraw handle => link.withdraw handle
  | .giveUp handle => (link.giveUp handle).2
  | .failAll => link.failAll
  | .sweep => link.sweep
  | .setState state => link.setState state
  | .requestClose reason => link.requestClose reason
  | .closeTransport => link.closeTransport
  | .wait time => { link with now := link.now + time }

/-- An act that is done for its own reasons, or because the application has left. Nobody asks for the session
to be closed for another reason than that the connection is lost. -/
def Act.IsDone (parted : Prop) : Act → Prop
  | .setState .bound => True
  | .setState _ | .requestClose none => parted
  | .requestClose (some reason) => reason = .connectionLost
  | _ => True

inductive Reaches (parted : Prop) (before : Link) : Link → Prop
  | refl : Reaches parted before before
  | act {middle : Link} (earlier : Reaches parted before middle) (act : Act) (isDone : act.IsDone parted) :
      Reaches parted before (middle.perform act)

variable {parted : Prop}

theorem reaches_perform (link : Link) (act : Act) (isDone : act.IsDone parted) :
    link.Reaches parted (link.perform act) := .act .refl act isDone

theorem Reaches.trans {first second third : Link} (before : first.Reaches parted second)
    (after : second.Reaches parted third) : first.Reaches parted third := by
  induction after with
  | refl => exact before
  | act _ act isDone ih => exact .act ih act isDone

/-- Whatever holds goes on holding while a request is registered, written and, if that fails, withdrawn. -/
structure KeptBySending (motive : Link → Prop) : Prop where
  write : ∀ link frame, motive link → motive (link.write frame).2
  register : ∀ link commandId, motive link → motive (link.register commandId).2
  withdraw : ∀ link handle, motive link → motive (link.withdraw handle)

section

variable {motive : Link → Prop} {link : Link}

theorem KeptBySending.transmit (kept : KeptBySending motive) (holds : motive link) (handle : PendingHandle)
    (body : Body) : motive (link.transmit handle body).2 := by
  have written := kept.write link { sequence := handle.sequence, body } holds
  unfold Link.transmit
  split
  · rename_i sent
    rw [sent] at written
    exact written
  · rename_i failed
    rw [failed] at written
    exact kept.withdraw _ handle written

theorem KeptBySending.send (kept : KeptBySending motive) (holds : motive link) (body : Body) :
    motive (link.send body).2 :=
  kept.transmit (kept.register link body.commandId holds) _ _

theorem KeptBySending.submit (kept : KeptBySending motive) (holds : motive link)
    (source destination : String) (segment : Segment) (wantsReceipt : Bool) :
    motive (link.submit source destination segment wantsReceipt).2 := by
  unfold Link.submit
  split
  · exact kept.send holds _
  · exact holds

theorem KeptBySending.submitAll (kept : KeptBySending motive) (holds : motive link)
    (source destination : String) (wantsReceipt : Bool) (segments : List Segment) :
    motive (link.submitAll source destination wantsReceipt segments).2 := by
  induction segments generalizing link with
  | nil => exact holds
  | cons segment others ih =>
      have first := kept.submit holds source destination segment wantsReceipt
      unfold Link.submitAll
      split
      · rename_i failed
        rw [failed] at first
        exact first
      · rename_i handle middle submitted
        rw [submitted] at first
        have rest := ih first
        split
        · rename_i failed
          rw [failed] at rest
          exact rest
        · rename_i done
          rw [done] at rest
          exact rest

end

theorem reaches_kept (link : Link) : KeptBySending (link.Reaches parted) where
  write _ frame earlier := earlier.act (.write frame) trivial
  register _ commandId earlier := earlier.act (.register commandId) trivial
  withdraw _ handle earlier := earlier.act (.withdraw handle) trivial

theorem reaches_send (link : Link) (body : Body) : link.Reaches parted (link.send body).2 :=
  link.reaches_kept.send .refl body

theorem reaches_submit (link : Link) (source destination : String) (segment : Segment)
    (wantsReceipt : Bool) : link.Reaches parted (link.submit source destination segment wantsReceipt).2 :=
  link.reaches_kept.submit .refl source destination segment wantsReceipt

theorem reaches_submitAll (link : Link) (source destination : String) (wantsReceipt : Bool)
    (segments : List Segment) :
    link.Reaches parted (link.submitAll source destination wantsReceipt segments).2 :=
  link.reaches_kept.submitAll .refl source destination wantsReceipt segments

theorem reaches_tearDown (link : Link) : link.Reaches True link.tearDown :=
  ((link.reaches_perform .failAll trivial).act (.setState .disconnected) trivial).act .closeTransport trivial

end Link

namespace Listener

theorem reaches_reply (link : Link) (answer : Frame) : link.Reaches True (reply link answer).1 := by
  have written : link.Reaches True (link.perform (.write answer)) := link.reaches_perform _ trivial
  simp only [Link.perform] at written
  unfold reply
  split
  · rename_i done
    rw [done] at written
    exact written
  · rename_i failed
    rw [failed] at written
    exact written.trans (Link.reaches_tearDown _)

theorem reaches_handled (link : Link) (frame : Frame) (ending : HandlerEnd) :
    link.Reaches True (handled link frame ending).1 := by
  have written : link.Reaches True (link.perform (.write (answerTo frame ending.status))) :=
    link.reaches_perform _ trivial
  simp only [Link.perform] at written
  unfold handled
  split
  · exact .refl
  · split
    · rename_i failed
      rw [failed] at written
      exact written.trans (Link.reaches_tearDown _)
    · rename_i done
      rw [done] at written
      split
      · exact (written.act (.setState .unbound) trivial).trans (Link.reaches_tearDown _)
      · exact written

end Listener

variable {parted : Prop}

namespace Pinger

theorem reaches_learn (link : Link) (pinger : Pinger) (outcome : Outcome) :
    link.Reaches parted (learn link pinger outcome).1 := by
  unfold learn
  split
  · exact .refl
  · exact link.reaches_perform (.requestClose (some .connectionLost)) rfl
  · exact .refl

theorem reaches_ask (link : Link) (pinger : Pinger) : link.Reaches parted (ask link pinger).1 := by
  have sent : link.Reaches parted (link.send .enquireLink).2 := link.reaches_send .enquireLink
  unfold ask
  split
  · dsimp only
    split
    · rename_i written
      rw [written] at sent
      exact sent
    · rename_i failed
      rw [failed] at sent
      exact sent.trans (reaches_learn _ _ _)
  · exact .refl

end Pinger

def Call.isParting : Call → Bool
  | awaiting .unbind _ | leaving _ => true
  | _ => false

namespace Session

section

variable {base : Link} {session : Session}

theorem reaches_leave (did : parted) (earlier : base.Reaches parted session.link) (result : Result) :
    base.Reaches parted (session.leave result).link :=
  (earlier.act .failAll trivial).act (.setState .disconnected) did

theorem reaches_startLeaving (did : parted) (earlier : base.Reaches parted session.link) (result : Result) :
    base.Reaches parted (session.startLeaving result).link := by
  have closing := (earlier.act (.requestClose .none) did).act .closeTransport trivial
  unfold startLeaving
  dsimp only
  split
  · exact closing
  · exact reaches_leave did closing result

theorem reaches_conclude {purpose : Purpose} (did : purpose = .unbind → parted)
    (earlier : base.Reaches parted session.link) (outcome : Outcome) :
    base.Reaches parted (session.conclude purpose outcome).link := by
  unfold conclude
  dsimp only
  split
  · exact earlier.act (.setState .bound) trivial
  · exact reaches_startLeaving (did rfl) earlier _
  · exact earlier

theorem reaches_await {purpose : Purpose} (did : purpose = .unbind → parted)
    (earlier : base.Reaches parted session.link) (body : Body) :
    base.Reaches parted (session.await purpose body).link := by
  have sent := earlier.trans (session.link.reaches_send body)
  unfold await
  split
  · rename_i written
    rw [written] at sent
    exact sent
  · rename_i failed
    rw [failed] at sent
    exact reaches_conclude did sent _

end

theorem reaches_start (session : Session) (request : Request)
    (did : request = .unbind ∨ request = .disconnect → parted) :
    session.link.Reaches parted (session.start request).link := by
  cases request with
  | bind credentials =>
      simp only [start]
      split
      · exact reaches_await nofun .refl _
      · exact .refl
  | submit source destination segment wantsReceipt =>
      exact session.link.reaches_submit source destination segment wantsReceipt
  | sendMessage source destination text =>
      simp only [start]
      split
      · split
        · exact .refl
        · exact Link.reaches_submitAll _ source destination _ _
      · exact .refl
  | messageId handle => exact .refl
  | enquireLink =>
      simp only [start]
      split
      · exact .refl
      · exact reaches_await nofun .refl _
  | unbind =>
      simp only [start]
      split
      · have unbound := session.link.reaches_perform (.setState .unbound) (did (Or.inl rfl))
        exact reaches_await (fun _ => did (Or.inl rfl)) unbound _
      · exact reaches_startLeaving (did (Or.inl rfl)) .refl _
  | disconnect => exact reaches_startLeaving (did (Or.inr rfl)) .refl _
  | waitClosed =>
      simp only [start]
      split
      · exact .refl
      · exact .refl

theorem reaches_resume (session : Session) (did : session.call.isParting = true → parted) :
    session.link.Reaches parted session.resume.link := by
  unfold resume
  split
  · rename_i waiting
    rw [waiting] at did
    split
    · refine reaches_conclude ?_ .refl _
      rintro rfl
      exact did rfl
    · exact .refl
  · rename_i result outcome leaving _
    rw [leaving] at did
    exact reaches_leave (did rfl) .refl result
  · exact .refl
  · exact .refl

theorem reaches_giveUp (session : Session) (did : session.call.isParting = true → parted) :
    session.link.Reaches parted session.giveUp.link := by
  unfold giveUp
  split
  · rename_i purpose handle waiting
    rw [waiting] at did
    refine reaches_conclude ?_ (session.link.reaches_perform (.giveUp handle) trivial) _
    rintro rfl
    exact did rfl
  · rename_i result leaving
    rw [leaving] at did
    exact reaches_leave (did rfl) .refl result
  · exact .refl
  · exact .refl
  · exact .refl

theorem move_start {session : Session} (free : session.call.isUnderWay = false) (request : Request) :
    session.move (.start request) = session.start request := by
  rw [Session.move, if_neg]
  rw [free]
  exact Bool.false_ne_true

def Move.isListening : Move → Bool
  | hear _ | handled _ | stop | sweep => true
  | _ => false

def Leaves (session : Session) (move : Move) : Prop :=
  session.call.isUnderWay = false ∧ (move = .start .unbind ∨ move = .start .disconnect)

/-- Every move is made of acts, unless the listener takes something up in it, goes on or stops. -/
theorem reaches_task (session : Session) {move : Move} (isTask : move.isListening = false)
    (did : session.Leaves move ∨ session.call.isParting = true → parted) :
    session.link.Reaches parted (session.move move).link := by
  cases move with
  | start request =>
      simp only [Session.move]
      split
      · exact .refl
      · rename_i free
        refine reaches_start session request fun parting => did (Or.inl ⟨Bool.not_eq_true _ ▸ free, ?_⟩)
        exact parting.imp (congrArg _) (congrArg _)
  | resume => exact reaches_resume session fun parting => did (Or.inr parting)
  | giveUp => exact reaches_giveUp session fun parting => did (Or.inr parting)
  | drop =>
      simp only [Session.move]
      split <;> exact .refl
  | ask =>
      simp only [Session.move]
      split
      · exact Pinger.reaches_ask _ _
      · exact .refl
  | learn =>
      simp only [Session.move]
      split
      · split
        · exact Pinger.reaches_learn _ _ _
        · exact .refl
      · exact .refl
  | miss =>
      simp only [Session.move]
      split
      · rename_i handle _
        exact (session.link.reaches_perform (.giveUp handle) trivial).trans (Pinger.reaches_learn _ _ _)
      · exact .refl
  | age time => exact session.link.reaches_perform (.wait time) trivial
  | hear _ | handled _ | stop | sweep => cases isTask

theorem reaches_move (session : Session) {move : Move} (notHearing : ∀ event, move ≠ .hear event)
    (notStopping : move ≠ .stop) : session.link.Reaches True (session.move move).link := by
  cases move with
  | hear event => exact absurd rfl (notHearing event)
  | stop => exact absurd rfl notStopping
  | handled ending =>
      simp only [Session.move]
      split
      · exact Listener.reaches_handled _ _ _
      · exact .refl
  | sweep =>
      simp only [Session.move]
      split
      · exact session.link.reaches_perform .sweep trivial
      · exact .refl
  | _ => exact session.reaches_task rfl fun _ => trivial

end Session

end Smpp
