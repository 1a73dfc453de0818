import Smpp.Octets

/-!
UTF-8. `encode` and `decode?` are exact inverses; `fault?` says where and how an octet string stops
being UTF-8; `decodeLossy` puts one replacement character for each maximal part that is not.
-/

namespace Smpp.Utf8

def encode (text : String) : Octets := text.toByteArray.data.toList

def decode? (octets : Octets) : Option String := String.fromUTF8? ⟨octets.toArray⟩

@[simp] theorem decode?_encode (text : String) : decode? (encode text) = some text := by
  simp only [decode?, encode, Array.toArray_toList, String.fromUTF8?]
  exact dif_pos text.isValidUTF8

theorem encode_of_decode? {octets : Octets} {text : String} (decoded : decode? octets = some text) :
    encode text = octets := by
  simp only [decode?, String.fromUTF8?] at decoded
  split at decoded
  · cases decoded
    rfl
  · cases decoded

theorem decode?_eq_some_iff {octets : Octets} {text : String} :
    decode? octets = some text ↔ encode text = octets :=
  ⟨encode_of_decode?, fun written => written ▸ decode?_encode text⟩

/-- What stands at the head of an octet string: a whole character of some length, a part that no
character starts with, or the beginning of a character that the end of the string cuts off. -/
inductive Head
  | whole (length : Nat)
  | broken (length : Nat)
  | cut
  deriving DecidableEq, Repr

def lead? (first : UInt8) : Option (Nat × UInt8 × UInt8) :=
  if first ≤ 0x7F then some (0, 0x80, 0xBF)
  else if first < 0xC2 then none
  else if first ≤ 0xDF then some (1, 0x80, 0xBF)
  else if first = 0xE0 then some (2, 0xA0, 0xBF)
  else if first = 0xED then some (2, 0x80, 0x9F)
  else if first ≤ 0xEF then some (2, 0x80, 0xBF)
  else if first = 0xF0 then some (3, 0x90, 0xBF)
  else if first ≤ 0xF3 then some (3, 0x80, 0xBF)
  else if first = 0xF4 then some (3, 0x80, 0x8F)
  else none

def follow (taken : Nat) : Nat → UInt8 → UInt8 → Octets → Head
  | 0, _, _, _ => .whole taken
  | _ + 1, _, _, [] => .cut
  | owed + 1, low, high, octet :: rest =>
      if low ≤ octet ∧ octet ≤ high then follow (taken + 1) owed 0x80 0xBF rest else .broken taken

def head (first : UInt8) (rest : Octets) : Head :=
  match lead? first with
  | none => .broken 1
  | some (owed, low, high) => follow 1 owed low high rest

def character : Octets → Char
  | [a] => Char.ofNat a.toNat
  | [a, b] => Char.ofNat (64 * (a.toNat % 32) + b.toNat % 64)
  | [a, b, c] => Char.ofNat (64 * (64 * (a.toNat % 16) + b.toNat % 64) + c.toNat % 64)
  | [a, b, c, d] =>
      Char.ofNat
        (64 * (64 * (64 * (a.toNat % 8) + b.toNat % 64) + c.toNat % 64) + d.toNat % 64)
  | _ => '\uFFFD'

def replacement : Char := '\uFFFD'

/-- Decodes what is UTF-8, with one replacement character for each maximal part that is not. -/
def lossyCharacters : Octets → List Char
  | [] => []
  | first :: rest =>
      match head first rest with
      | .whole length =>
          character (first :: rest.take (length - 1)) :: lossyCharacters (rest.drop (length - 1))
      | .broken length => replacement :: lossyCharacters (rest.drop (length - 1))
      | .cut => [replacement]
termination_by octets => octets.length
decreasing_by all_goals simp only [List.length_drop, List.length_cons]; omega

def decodeLossy (octets : Octets) : String := String.ofList (lossyCharacters octets)

/-- Why octets are not UTF-8: a part of `length` octets at `index` that no character starts with, or
a character cut off that begins at `index`. -/
inductive Fault
  | invalid (length index : Nat)
  | incomplete (index : Nat)
  deriving DecidableEq, Repr

def faultFrom (index : Nat) : Octets → Option Fault
  | [] => none
  | first :: rest =>
      match head first rest with
      | .whole length => faultFrom (index + 1 + (length - 1)) (rest.drop (length - 1))
      | .broken length => some (.invalid length index)
      | .cut => some (.incomplete index)
termination_by octets => octets.length
decreasing_by simp only [List.length_drop, List.length_cons]; omega

def fault? (octets : Octets) : Option Fault := faultFrom 0 octets

def fault (octets : Octets) : Fault := (fault? octets).getD (.incomplete octets.length)

def Fault.message : Fault → String
  | .invalid length index => s!"invalid utf-8 sequence of {length} bytes from index {index}"
  | .incomplete index => s!"incomplete utf-8 byte sequence from index {index}"

end Smpp.Utf8
