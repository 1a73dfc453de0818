import Smpp.Codec.Decoder
import Smpp.Pdu.Frame

/-!
The header of a frame: sixteen octets, of which the first four declare the length of the whole frame.
Only lengths from the header alone up to the largest frame are accepted.
-/

namespace Smpp

structure Header where
  length : UInt32
  commandId : CommandId
  status : CommandStatus
  sequence : UInt32
  deriving DecidableEq, Repr

namespace Header

def size : Nat := 16

def largestFrame : Nat := 65536

def encode (header : Header) : Octets :=
  Octets.ofWord32 header.length ++ Octets.ofWord32 header.commandId.code ++
    Octets.ofWord32 header.status.code ++ Octets.ofWord32 header.sequence

def bodyLength (header : Header) : Nat := header.length.toNat - size

def checkLength (length : UInt32) : Except CodecError Unit :=
  if length.toNat < size ∨ largestFrame < length.toNat then
    .error (.invalidLength length (UInt32.ofNat size) (UInt32.ofNat largestFrame))
  else .ok ()

theorem checkLength_eq_ok_iff {length : UInt32} :
    checkLength length = .ok () ↔ size ≤ length.toNat ∧ length.toNat ≤ largestFrame := by
  unfold checkLength
  split
  · rename_i outside
    simp only [reduceCtorEq, false_iff]
    omega
  · rename_i inside
    simp only [true_iff]
    omega

/-- Reads a header. All of it is read before its length is looked at. -/
def decoder : Decoder Header
  | a₁ :: a₂ :: a₃ :: a₄ :: b₁ :: b₂ :: b₃ :: b₄ :: c₁ :: c₂ :: c₃ :: c₄ ::
      d₁ :: d₂ :: d₃ :: d₄ :: rest =>
      let length := Octets.toWord32 a₁ a₂ a₃ a₄
      match checkLength length with
      | .error error => (.error error, rest)
      | .ok () =>
          (.ok ⟨length, ⟨Octets.toWord32 b₁ b₂ b₃ b₄⟩, ⟨Octets.toWord32 c₁ c₂ c₃ c₄⟩,
            Octets.toWord32 d₁ d₂ d₃ d₄⟩, rest)
  | short => (.error .incomplete, short)

def frame (header : Header) (body : Body) : Frame := ⟨header.status, header.sequence, body⟩

@[simp] theorem length_encode (header : Header) : header.encode.length = 16 := rfl

end Header

/-- The length of the first frame in the octets, once all of it is there. -/
def Frame.check (octets : Octets) : Except CodecError Nat :=
  match octets with
  | a :: b :: c :: d :: _ =>
      let length := Octets.toWord32 a b c d
      match Header.checkLength length with
      | .error error => .error error
      | .ok () =>
          if (octets.take length.toNat).length < length.toNat then .error .incomplete
          else .ok length.toNat
  | _ => .error .incomplete

theorem Frame.check_bounds {octets : Octets} {length : Nat} (checked : Frame.check octets = .ok length) :
    Header.size ≤ length ∧ length ≤ octets.length := by
  unfold Frame.check at checked
  split at checked
  · dsimp only at checked
    split at checked
    · exact absurd checked (by simp)
    · rename_i accepted
      have bounds := Header.checkLength_eq_ok_iff.mp accepted
      split at checked
      · exact absurd checked (by simp)
      · rename_i whole
        rw [← Except.ok.inj checked]
        rw [List.length_take] at whole
        omega
  · exact absurd checked (by simp)

end Smpp
