import Smpp.Codec.Encode

/-!
Frames written one behind the other into a buffer. The header goes in front of a body whose size is not
known yet, so that its first word is written again when the body is there.
-/

namespace Smpp

def Octets.overwrite (octets : Octets) (place : Nat) (replacement : Octets) : Octets :=
  octets.take place ++ replacement ++ octets.drop (place + replacement.length)

namespace Field

def append (buffer : Octets) : List (Except CodecError Octets) → Except CodecError Unit × Octets
  | [] => (.ok (), buffer)
  | .error error :: _ => (.error error, buffer)
  | .ok octets :: fields => append (buffer ++ octets) fields

end Field

namespace Frame

/-- Writes a frame behind a buffer. Only a frame that turns out too large is cut off again. -/
def appendTo (buffer : Octets) (frame : Frame) : Except CodecError Unit × Octets :=
  match frame.body.validate with
  | .error error => (.error error, buffer)
  | .ok () =>
      match Field.append (buffer ++ (frame.headerFor 0).encode) (frame.body.fields frame.status) with
      | (.error error, written) => (.error error, written)
      | (.ok (), written) =>
          let length := written.length - buffer.length
          if Header.largestFrame < length then
            (.error (.fieldTooLong "command_length" Header.largestFrame length),
              written.take buffer.length)
          else (.ok (), written.overwrite buffer.length (Octets.ofWord32 (UInt32.ofNat length)))

def appendAll (buffer : Octets) (frames : List Frame) : Octets :=
  frames.foldl (fun buffer frame => (frame.appendTo buffer).2) buffer

end Frame

end Smpp
