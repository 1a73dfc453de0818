import Smpp.Session.Link
import Smpp.Stream.Inbound

/-!
The task that reads. It hands each response to the request that waits for it, answers each request
of the SMS centre once, and lets a handler see both. While a handler runs, other tasks can go on, so
that what comes before the handler and what comes after it are two steps. How a handler ends is not
for the listener to know: it may end in any way, each time.

An answer to an unbind, the state that is published after it and the end of the listener are one step
here; `Race` takes the end apart.
-/

namespace Smpp

inductive Listener
  | reading
  | handling (handler : Handler) (frame : Frame)
  | ended (outcome : Except SessionError Unit)

namespace Listener

def finish (link : Link) (outcome : Except SessionError Unit) : Link × Listener :=
  (link.tearDown, .ended outcome)

def dispatch (link : Link) (frame : Frame) : Link × Listener :=
  let handler := link.handlers.handlerFor frame.commandId
  ({ link with dispatched := link.dispatched ++ [(handler, frame)] }, .handling handler frame)

def reply (link : Link) (answer : Frame) : Link × Listener :=
  match link.write answer with
  | (.ok (), link) => (link, .reading)
  | (.error _, link) => finish link (.error .connectionLost)

/-- A response that no request waits for is dropped. -/
def onFrame (link : Link) (frame : Frame) : Link × Listener :=
  if frame.isResponse then
    let (matched, link) := link.complete frame.sequence (.ok frame)
    if matched then dispatch link frame else (link, .reading)
  else dispatch link frame

def onMalformed (link : Link) (header : Header) (error : CodecError) : Link × Listener :=
  if header.commandId.isResponse then
    ((link.complete header.sequence (.error (.decoding error))).2, .reading)
  else reply link ⟨error.status, header.sequence, .genericNack⟩

/-- How the end of the stream ends the session. Only one that was about to close ends well. -/
def closing (state : SessionState) : Except SessionError Unit :=
  match state with
  | .unbound | .disconnected => .ok ()
  | .connected | .bound => .error .connectionLost

def hear (link : Link) : Inbound.Event → Link × Listener
  | .frame frame => onFrame link frame
  | .malformed header error => onMalformed link header error
  | .desync error => finish link (.error (.protocolViolation error))
  | .closed => finish link (closing link.state)
  | .cutOff _ => finish link (.error .connectionLost)

def answerTo (request : Frame) (status : CommandStatus) : Frame :=
  match request.body with
  | .deliverSm _ => ⟨status, request.sequence, .deliverSmResp ""⟩
  | .enquireLink => ⟨.ok, request.sequence, .enquireLinkResp⟩
  | .unbind => ⟨.ok, request.sequence, .unbindResp⟩
  | _ => ⟨.invalidCommandId, request.sequence, .genericNack⟩

def handled (link : Link) (frame : Frame) (ending : HandlerEnd) : Link × Listener :=
  if frame.isResponse then (link, .reading)
  else
    match link.write (answerTo frame ending.status) with
    | (.error _, link) => finish link (.error .connectionLost)
    | (.ok (), link) =>
        if frame.body = .unbind then finish (link.setState .unbound) (.ok ()) else (link, .reading)

def stop (link : Link) : Link × Listener :=
  if link.closeRequested then
    let (outcome, link) := link.takeClose
    finish link outcome
  else (link, .reading)

/-- How often stale requests are looked for: a quarter of the time that a response may take, between
ten milliseconds and a second. -/
def sweepPeriod (config : SessionConfig) : Nat := max 10 (min 1000 (config.responseTimeout / 4))

end Listener

end Smpp
