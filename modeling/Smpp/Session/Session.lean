import Smpp.Session.Listener
import Smpp.Session.Pinger

/-!
A transceiver session: the listener, the keep-alive and the call that the application has under way,
over what they share. A session goes on in moves. Between two moves any of the three may come next, so
that a list of moves is one order of events out of all that can happen.

A move is what one of the three does until it has to wait. Several steps can make up one move, such as an
unbind that publishes the state and then sends its request, or a message whose parts are sent one behind the
other. Others may come between them where tasks run at the same time. Where that matters to a property, the
steps are taken apart: a submit beside the end of the listener in `Race`, a request on its way out in
`Sending`, what tasks signal to the listener in `Signalling`, and the end of a wait in `Traffic`.
-/

namespace Smpp

inductive Request
  | bind (credentials : Credentials)
  | submit (source destination : String) (segment : Segment) (wantsReceipt : Bool)
  | sendMessage (source destination text : String)
  | messageId (handle : PendingHandle)
  | enquireLink
  | unbind
  | disconnect
  | waitClosed

inductive Answer
  | done
  | submitted (handle : PendingHandle)
  | sent (sequences : List UInt32)
  | messageId (id : String)
  deriving DecidableEq, Repr

abbrev Result := Except SessionError Answer

inductive Purpose
  | bind
  | messageId
  | enquireLink
  | unbind
  deriving DecidableEq, Repr

inductive Call
  | none
  | awaiting (purpose : Purpose) (handle : PendingHandle)
  /-- The transport is closed, and the listener is about to end. -/
  | leaving (result : Result)
  | joining
  | returned (result : Result)

def Call.isUnderWay : Call → Bool
  | awaiting .. | leaving _ | joining => true
  | none | returned _ => false

def Purpose.response : Purpose → CommandId
  | bind => .bindTransceiverResp
  | messageId => .submitSmResp
  | enquireLink => .enquireLinkResp
  | unbind => .unbindResp

def Purpose.refusal : Purpose → CommandStatus → SessionError
  | bind => .bindRejected
  | messageId | enquireLink | unbind => .rejected

/-- What a frame is worth as the response to a request. A generic_nack refuses even if its status is
that of success. -/
def Purpose.judge (purpose : Purpose) (frame : Frame) : Result :=
  if frame.commandId = .genericNack then .error (purpose.refusal frame.status)
  else if frame.commandId ≠ purpose.response then
    .error (.unexpectedFrame purpose.response frame.commandId)
  else if frame.status.isOk then
    match frame.body with
    | .submitSmResp id => .ok (.messageId id)
    | _ => .ok .done
  else .error (purpose.refusal frame.status)

structure Session where
  link : Link
  listener : Listener := .reading
  pinger : Pinger
  segmenter : Segmenter := {}
  call : Call := .none
  /-- No call has yet taken the listener's end to itself. -/
  isListenerHeld : Bool := true
  /-- The listener's end, put aside by a call that does not report it. -/
  ending : Option (Except SessionError Unit) := none

namespace Session

def ofConfig (config : SessionConfig) (handlers : HandlerTable) : Session :=
  { link := { config, handlers }, pinger := { keepAlive := { config := config.keepAlive } } }

def returning (session : Session) (result : Result) : Session :=
  { session with call := .returned result }

def leave (session : Session) (result : Result) : Session :=
  { session with
    link := session.link.failAll.setState .disconnected
    call := .returned result }

def startLeaving (session : Session) (result : Result) : Session :=
  let session :=
    { session with
      pinger := session.pinger.callOff
      link := (session.link.requestClose .none).closeTransport }
  if session.isListenerHeld then
    { session with isListenerHeld := false, call := .leaving result }
  else session.leave result

def conclude (session : Session) (purpose : Purpose) (outcome : Outcome) : Session :=
  let result := outcome.bind purpose.judge
  match purpose, result with
  | .bind, .ok _ =>
      { session with
        link := session.link.setState .bound
        pinger := session.pinger.start
        call := .returned result }
  | .unbind, _ => session.startLeaving result
  | _, _ => session.returning result

def await (session : Session) (purpose : Purpose) (body : Body) : Session :=
  match session.link.send body with
  | (.ok handle, link) => { session with link, call := .awaiting purpose handle }
  | (.error error, link) => { session with link }.conclude purpose (.error error)

def start (session : Session) (request : Request) : Session :=
  match request with
  | .bind credentials =>
      if session.link.state = .connected then
        session.await .bind (.bindTransceiver credentials.request)
      else
        session.returning
          (.error (.invalidState s!"cannot bind while {session.link.state.name}"))
  | .submit source destination segment wantsReceipt =>
      let (submitted, link) := session.link.submit source destination segment wantsReceipt
      { session with link }.returning (submitted.map .submitted)
  | .sendMessage source destination text =>
      if session.link.state = .bound then
        match session.segmenter.segment text .auto with
        | (.error error, segmenter) =>
            { session with segmenter }.returning (.error (.encoding error))
        | (.ok message, segmenter) =>
            let (sent, link) := session.link.submitAll source destination
              session.link.config.deliveryReceipts message.segments
            { session with segmenter, link }.returning (sent.map .sent)
      else session.returning (.error (.notBound session.link.state))
  | .messageId handle => { session with call := .awaiting .messageId handle }
  | .enquireLink =>
      if session.link.state = .disconnected then
        session.returning (.error (.invalidState "session is disconnected"))
      else session.await .enquireLink .enquireLink
  | .unbind =>
      if session.link.state = .bound then
        { session with link := session.link.setState .unbound }.await .unbind .unbind
      else session.startLeaving (.ok .done)
  | .disconnect => session.startLeaving (.ok .done)
  | .waitClosed =>
      if session.isListenerHeld then { session with isListenerHeld := false, call := .joining }
      else
        { session with ending := .none }.returning
          ((session.ending.getD (.ok ())).map fun _ => .done)

def resume (session : Session) : Session :=
  match session.call, session.listener with
  | .awaiting purpose handle, _ =>
      match session.link.pending.outcome? handle with
      | some outcome => session.conclude purpose outcome
      | .none => session
  | .leaving result, .ended outcome => { session with ending := some outcome }.leave result
  | .joining, .ended outcome =>
      { session with pinger := session.pinger.callOff }.returning (outcome.map fun _ => .done)
  | _, _ => session

/-- The call has waited long enough. A listener that does not end in time is cut short. -/
def giveUp (session : Session) : Session :=
  match session.call with
  | .awaiting purpose handle =>
      let (outcome, link) := session.link.giveUp handle
      { session with link }.conclude purpose outcome
  | .leaving result =>
      let outcome : Except SessionError Unit :=
        match session.listener with
        | .ended outcome => outcome
        | .reading | .handling .. => .error .connectionLost
      { session with listener := .ended outcome, ending := some outcome }.leave result
  | .none | .joining | .returned _ => session

def patience? (session : Session) : Option Nat :=
  match session.call with
  | .awaiting .unbind _ | .leaving _ => some session.link.config.unbindTimeout
  | .awaiting .. => some session.link.config.responseTimeout
  | .none | .joining | .returned _ => .none

/-- What can happen next. The application makes a call, goes on with it when what it waits for is there,
has waited long enough, or drops it. The listener takes up what the reader has found, goes on when a
handler has ended, looks for a request to stop, or looks for stale requests. The keep-alive asks, looks
for its answer, or has waited long enough for it. Requests grow older. -/
inductive Move
  | start (request : Request)
  | resume
  | giveUp
  | drop
  | hear (event : Inbound.Event)
  | handled (ending : HandlerEnd)
  | stop
  | sweep
  | ask
  | learn
  | miss
  | age (time : Nat)

def withListener (session : Session) (next : Link × Listener) : Session :=
  { session with link := next.1, listener := next.2 }

def withPinger (session : Session) (next : Link × Pinger) : Session :=
  { session with link := next.1, pinger := next.2 }

def move (session : Session) : Move → Session
  | .start request => if session.call.isUnderWay then session else session.start request
  | .resume => session.resume
  | .giveUp => session.giveUp
  | .drop => if session.call.isUnderWay then { session with call := .none } else session
  | .hear event =>
      match session.listener with
      | .reading => session.withListener (Listener.hear session.link event)
      | _ => session
  | .handled ending =>
      match session.listener with
      | .handling _ frame =>
          session.withListener (Listener.handled session.link frame ending)
      | _ => session
  | .stop =>
      match session.listener with
      | .reading => session.withListener (Listener.stop session.link)
      | _ => session
  | .sweep =>
      match session.listener with
      | .reading => { session with link := session.link.sweep }
      | _ => session
  | .ask =>
      match session.pinger.phase with
      | .resting => session.withPinger (Pinger.ask session.link session.pinger)
      | _ => session
  | .learn =>
      match session.pinger.phase with
      | .asking handle =>
          match session.link.pending.outcome? handle with
          | some outcome => session.withPinger (Pinger.learn session.link session.pinger outcome)
          | .none => session
      | _ => session
  | .miss =>
      match session.pinger.phase with
      | .asking handle =>
          let (outcome, link) := session.link.giveUp handle
          session.withPinger (Pinger.learn link session.pinger outcome)
      | _ => session
  | .age time => { session with link := { session.link with now := session.link.now + time } }

def run (session : Session) (moves : List Move) : Session := moves.foldl move session

@[simp] theorem run_nil (session : Session) : session.run [] = session := rfl

@[simp] theorem run_cons (session : Session) (first : Move) (others : List Move) :
    session.run (first :: others) = (session.move first).run others := rfl

theorem run_append (session : Session) (first second : List Move) :
    session.run (first ++ second) = (session.run first).run second := List.foldl_append

end Session

end Smpp
