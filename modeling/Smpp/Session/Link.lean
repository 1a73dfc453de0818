import Smpp.Message.Segment
import Smpp.Session.Config
import Smpp.Session.Handler
import Smpp.Session.Pending
import Smpp.Stream.Outbound

/-!
What the tasks of a session share: the writing half, the table of waiting requests, the published
state and the request to close. `write`, `requestClose`, `complete`, `giveUp`, `failAll` and the last
section put steps together that other tasks can come between; each other operation is one step.

The transport takes or refuses what is written at once. It never keeps a writer waiting, so that nobody
finds the writing half in use.
-/

namespace Smpp

def SessionConfig.message (config : SessionConfig) (source destination : String) (segment : Segment)
    (wantsReceipt : Bool) : ShortMessage :=
  { sourceTon := config.sourceTon
    sourceNpi := config.sourceNpi
    sourceAddress := source
    destinationTon := config.destinationTon
    destinationNpi := config.destinationNpi
    destinationAddress := destination
    esmClass := segment.esmClass
    registeredDelivery := if wantsReceipt then 1 else 0
    dataCoding := segment.dataCoding
    octets := segment.payload }

structure Link where
  config : SessionConfig := {}
  handlers : HandlerTable := .standard
  writer : Outbound := {}
  pending : PendingTable := {}
  state : SessionState := .connected
  /-- Why the session has to close, as the first who asked for it put it. -/
  closeReason : Option SessionError := none
  /-- Somebody has asked the listener to stop, and it has not yet seen that. -/
  closeRequested : Bool := false
  now : Nat := 0
  /-- The frames that handlers have got, each with the handler that was chosen for it. -/
  dispatched : List (Handler × Frame) := []

namespace Link

def setState (link : Link) (state : SessionState) : Link := { link with state }

def explain (link : Link) (reason : Option SessionError) : Link :=
  { link with closeReason := link.closeReason.or reason }

def wakeListener (link : Link) : Link := { link with closeRequested := true }

def requestClose (link : Link) (reason : Option SessionError) : Link :=
  (link.explain reason).wakeListener

def takeClose (link : Link) : Except SessionError Unit × Link :=
  (match link.closeReason with
    | some reason => .error reason
    | none => .ok (),
    { link with closeReason := none, closeRequested := false })

/-- Writes a frame. Nobody has been told yet if the transport fails. -/
def put (link : Link) (frame : Frame) : Except SessionError Unit × Link :=
  match link.writer.write frame with
  | (.ok (), writer) => (.ok (), { link with writer })
  | (.error (.encoding error), writer) => (.error (.encoding error), { link with writer })
  | (.error (.transport reason), writer) => (.error (.writeFailed reason), { link with writer })

def write (link : Link) (frame : Frame) : Except SessionError Unit × Link :=
  match link.put frame with
  | (.error (.writeFailed reason), link) =>
      (.error (.writeFailed reason),
        (link.setState .disconnected).requestClose (some .connectionLost))
  | written => written

/-- Ends the writing. What the transport says to it does not matter. The wait for the writing half, which
would leave the transport open if it took too long, is not here: nobody has the writing half in use. -/
def closeTransport (link : Link) : Link := { link with writer := link.writer.shutdown.2 }

def register (link : Link) (commandId : CommandId) : PendingHandle × Link :=
  let (handle, pending) := link.pending.register commandId link.now
  (handle, { link with pending })

def complete (link : Link) (sequence : UInt32) (outcome : Outcome) : Bool × Link :=
  let (matched, pending) := link.pending.complete sequence outcome
  (matched, { link with pending })

def withdraw (link : Link) (handle : PendingHandle) : Link :=
  { link with pending := (link.pending.remove handle.sequence).2 }

def giveUp (link : Link) (handle : PendingHandle) : Outcome × Link :=
  let (outcome, pending) := link.pending.giveUp handle
  (outcome, { link with pending })

def failAll (link : Link) : Link := { link with pending := link.pending.failAll.2 }

def sweep (link : Link) : Link :=
  { link with pending := (link.pending.expire link.now link.config.responseTimeout).2 }

def transmit (link : Link) (handle : PendingHandle) (body : Body) :
    Except SessionError PendingHandle × Link :=
  match link.write { sequence := handle.sequence, body } with
  | (.ok (), link) => (.ok handle, link)
  | (.error error, link) => (.error error, link.withdraw handle)

/-- Sends a request. It is registered first, so that a response always finds it. -/
def send (link : Link) (body : Body) : Except SessionError PendingHandle × Link :=
  let (handle, link) := link.register body.commandId
  link.transmit handle body

def submit (link : Link) (source destination : String) (segment : Segment) (wantsReceipt : Bool) :
    Except SessionError PendingHandle × Link :=
  if link.state = .bound then
    link.send (.submitSm (link.config.message source destination segment wantsReceipt))
  else (.error (.notBound link.state), link)

def submitAll (link : Link) (source destination : String) (wantsReceipt : Bool) :
    List Segment → Except SessionError (List UInt32) × Link
  | [] => (.ok [], link)
  | segment :: others =>
      match link.submit source destination segment wantsReceipt with
      | (.error error, link) => (.error error, link)
      | (.ok handle, link) =>
          match link.submitAll source destination wantsReceipt others with
          | (.error error, link) => (.error error, link)
          | (.ok sequences, link) => (.ok (handle.sequence :: sequences), link)

def tearDown (link : Link) : Link := (link.failAll.setState .disconnected).closeTransport

end Link

end Smpp
