import Smpp.Octets

/-!
UTF-16 in big-endian order, as the UCS-2 data coding carries it. A character beyond the basic plane
takes a surrogate pair; a surrogate that stands alone decodes as the replacement character.
-/

namespace Smpp.Utf16

def unitsOf (character : Char) : List UInt16 :=
  let code := character.toNat
  if code < 0x10000 then [UInt16.ofNat code]
  else
    [UInt16.ofNat (0xD7C0 + code / 0x400), UInt16.ofNat (0xDC00 + code % 0x400)]

def encodeUnits (units : List UInt16) : Octets := units.flatMap Octets.ofWord16

def encodeCharacter (character : Char) : Octets := encodeUnits (unitsOf character)

/-- The code units of the octets; an odd octet at the end is left out. -/
def decodeUnits : Octets → List UInt16
  | high :: low :: rest => Octets.toWord16 high low :: decodeUnits rest
  | _ => []

def isHigh (unit : UInt16) : Bool := 0xD800 ≤ unit && unit ≤ 0xDBFF

def isLow (unit : UInt16) : Bool := 0xDC00 ≤ unit && unit ≤ 0xDFFF

def pairCharacter (high low : UInt16) : Char :=
  Char.ofNat (0x10000 + 0x400 * (high.toNat % 0x400) + low.toNat % 0x400)

def unitCharacter (unit : UInt16) : Char :=
  if isHigh unit || isLow unit then '\uFFFD' else Char.ofNat unit.toNat

def lossyCharacters : List UInt16 → List Char
  | [] => []
  | [unit] => [unitCharacter unit]
  | first :: second :: rest =>
      if isHigh first && isLow second then pairCharacter first second :: lossyCharacters rest
      else unitCharacter first :: lossyCharacters (second :: rest)

def decodeLossy (octets : Octets) : String := String.ofList (lossyCharacters (decodeUnits octets))

end Smpp.Utf16
