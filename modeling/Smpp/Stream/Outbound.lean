import Smpp.Codec.Encode

/-!
The writing half of a connection. Each frame is encoded apart and only then written, through a buffer
that keeps what the transport does not take. What the transport has taken is always a beginning of the
frames that could be encoded, in the order in which they were written.
-/

namespace Smpp

/-- The far side of a transport: what it has taken, how much more it will take, and how it refuses. -/
structure Sink where
  accepted : Octets := []
  /-- The octets that it will still take; without a number it takes all. -/
  room : Option Nat := none
  refusal : String := "broken pipe"
  deriving DecidableEq, Repr

namespace Sink

def push (sink : Sink) (octets : Octets) : Sink × Octets :=
  match sink.room with
  | none => ({ sink with accepted := sink.accepted ++ octets }, [])
  | some room =>
      ({ sink with
          accepted := sink.accepted ++ octets.take room
          room := some (room - octets.length) },
        octets.drop room)

end Sink

inductive WriteError
  | encoding (error : CodecError)
  | transport (reason : String)
  deriving DecidableEq, Repr

structure Outbound where
  sink : Sink := {}
  buffered : Octets := []
  isClosed : Bool := false
  deriving DecidableEq, Repr

namespace Outbound

def capacity : Nat := 8192

def flush (writer : Outbound) : Except String Unit × Outbound :=
  let (sink, left) := writer.sink.push writer.buffered
  let writer := { writer with sink, buffered := left }
  if left.isEmpty then (.ok (), writer) else (.error sink.refusal, writer)

/-- Offers octets that are too many for the buffer straight to the transport. What it takes at once is
gone; of what it refuses, the buffer keeps only so much as it can hold. -/
def bypass (writer : Outbound) (octets : Octets) : Except String Unit × Outbound :=
  let (sink, left) := writer.sink.push octets
  if left.isEmpty then (.ok (), { writer with sink })
  else if left.length < octets.length ∧ left.length < capacity then
    (.ok (), { writer with sink, buffered := left })
  else (.error sink.refusal, { writer with sink })

def put (writer : Outbound) (octets : Octets) : Except String Unit × Outbound :=
  let (room, writer) :=
    if capacity < writer.buffered.length + octets.length then writer.flush else (.ok (), writer)
  match room with
  | .error reason => (.error reason, writer)
  | .ok () =>
      if octets.length < capacity then
        (.ok (), { writer with buffered := writer.buffered ++ octets })
      else writer.bypass octets

def write (writer : Outbound) (frame : Frame) : Except WriteError Unit × Outbound :=
  match frame.toOctets with
  | .error error => (.error (.encoding error), writer)
  | .ok octets =>
      if writer.isClosed then (.error (.transport "transport already shut down"), writer)
      else
        match writer.put octets with
        | (.error reason, writer) => (.error (.transport reason), writer)
        | (.ok (), writer) =>
            match writer.flush with
            | (.error reason, writer) => (.error (.transport reason), writer)
            | (.ok (), writer) => (.ok (), writer)

def shutdown (writer : Outbound) : Except String Unit × Outbound :=
  if writer.isClosed then (.ok (), writer)
  else
    let (outcome, writer) := writer.flush
    (outcome, { writer with isClosed := true })

end Outbound

end Smpp
