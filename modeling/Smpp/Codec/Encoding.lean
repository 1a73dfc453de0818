import Smpp.Codec.Error
import Smpp.Pdu.Parameter

/-!
Encodings of fields. An encoding is what it adds to a buffer, and why it stopped if it did: the fields
in front of the one that failed are there already.
-/

namespace Smpp

/-- The octets that an encoding added, and the error that stopped it. -/
structure Encoding where
  octets : Octets
  failure : Option CodecError
  deriving DecidableEq, Repr

namespace Encoding

def ofFields : List (Except CodecError Octets) → Encoding
  | [] => ⟨[], none⟩
  | .error error :: _ => ⟨[], some error⟩
  | .ok octets :: fields =>
      let others := ofFields fields
      ⟨octets ++ others.octets, others.failure⟩

def result (encoding : Encoding) : Except CodecError Octets :=
  match encoding.failure with
  | none => .ok encoding.octets
  | some error => .error error

end Encoding

namespace Field

def text (value : String) (largest : Nat) (field : String) : Except CodecError Octets :=
  let octets := Utf8.encode value
  if largest ≤ octets.length then .error (.fieldTooLong field (largest - 1) octets.length)
  else if octets.contains 0 then .error (.invalidField field "embedded null octet")
  else .ok (octets ++ [0])

def octet (value : UInt8) : Except CodecError Octets := .ok [value]

def parameter (parameter : Parameter) : Except CodecError Octets :=
  let length := parameter.value.length
  if 65535 < length then .error (.fieldTooLong "tlv_value" 65535 length)
  else .ok (Octets.ofWord16 parameter.tag ++ Octets.ofWord16 (UInt16.ofNat length) ++ parameter.value)

end Field

end Smpp
