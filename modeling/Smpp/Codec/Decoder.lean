import Smpp.Codec.Error
import Smpp.Pdu.Address
import Smpp.Pdu.Parameter

/-!
Decoders of fields. A decoder takes octets from the front of what is left; when it fails, what is
left tells how far it had come.
-/

namespace Smpp

abbrev Decoder := ExceptT CodecError (StateM Octets)

namespace Decoder

def decode {Value : Type} (decoder : Decoder Value) (octets : Octets) : Except CodecError Value × Octets :=
  decoder.run octets

/-- A text that ends with a null octet, which counts among the `largest` octets that it may take. -/
def text (largest : Nat) (field : String) : Decoder String := fun octets =>
  let window := octets.take largest
  let value := window.takeWhile fun octet => octet != 0
  if value.length < window.length then
    match Utf8.decode? value with
    | some text => (.ok text, octets.drop (value.length + 1))
    | none => (.error (.invalidText field (Utf8.fault value)), octets.drop (value.length + 1))
  else (.error (.missingTerminator field largest), octets)

def octet (field : String) : Decoder UInt8
  | [] => (.error (.truncated field), [])
  | first :: rest => (.ok first, rest)

def octets (count : Nat) (field : String) : Decoder Octets := fun left =>
  let value := left.take count
  if value.length < count then (.error (.truncated field), left) else (.ok value, left.drop count)

def listed {Value : Type} (read? : UInt8 → Option Value) (complaint field : String) : Decoder Value := do
  let value ← octet field
  match read? value with
  | some listed => pure listed
  | none => throw (.invalidField field s!"{complaint} 0x{Numeral.hexadecimal 2 value.toNat}")

def typeOfNumber (field : String) : Decoder TypeOfNumber :=
  listed TypeOfNumber.ofOctet? "invalid type of number" field

def numberingPlan (field : String) : Decoder NumberingPlan :=
  listed NumberingPlan.ofOctet? "invalid numbering plan" field

def interfaceVersion (field : String) : Decoder InterfaceVersion :=
  listed InterfaceVersion.ofOctet? "unsupported interface version" field

/-- One optional parameter. The tag and the length are read even when the value is cut short. -/
def parameter : Decoder Parameter
  | tagHigh :: tagLow :: lengthHigh :: lengthLow :: rest =>
      let tag := Octets.toWord16 tagHigh tagLow
      let length := (Octets.toWord16 lengthHigh lengthLow).toNat
      let value := rest.take length
      if value.length < length then
        (.error (.malformedParameter
          s!"TLV 0x{Numeral.hexadecimal 4 tag.toNat} declares {length} bytes, only {rest.length} remain"),
          rest)
      else (.ok ⟨tag, value⟩, rest.drop length)
  | short =>
      (.error (.malformedParameter s!"{short.length} trailing bytes cannot hold a TLV header"), short)

theorem length_lt_of_parameter {octets left : Octets} {found : Parameter}
    (read : decode parameter octets = (.ok found, left)) : left.length < octets.length := by
  unfold decode ExceptT.run parameter at read
  split at read
  · rename_i rest
    dsimp only at read
    split at read
    · cases read
    · cases read
      simp only [List.length_drop, List.length_cons]
      omega
  · cases read

def parametersOf (octets : Octets) : Except CodecError (List Parameter) × Octets :=
  match octets with
  | [] => (.ok [], [])
  | first :: rest =>
      match step : decode parameter (first :: rest) with
      | (.error error, left) => (.error error, left)
      | (.ok found, left) =>
          have _shorter : left.length < (first :: rest).length := length_lt_of_parameter step
          let (others, left) := parametersOf left
          (others.map (found :: ·), left)
termination_by octets.length
decreasing_by exact _shorter

def parameters : Decoder (List Parameter) := parametersOf

end Decoder

end Smpp
