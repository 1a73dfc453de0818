import Smpp.Octets

/-!
Octet strings as hexadecimal text, two digits for each octet.
-/

namespace Smpp.Hex

def digit (value : Nat) : Char := Char.ofNat (if value < 10 then 48 + value else 87 + value)

def encode (octets : Octets) : String :=
  octets.foldl
    (fun text octet => (text.push (digit (octet.toNat / 16))).push (digit (octet.toNat % 16))) ""

def value? (character : Char) : Option Nat :=
  if '0' ≤ character ∧ character ≤ '9' then some (character.toNat - 48)
  else if 'a' ≤ character ∧ character ≤ 'f' then some (character.toNat - 87)
  else if 'A' ≤ character ∧ character ≤ 'F' then some (character.toNat - 55)
  else none

def decodeInto (read : Array UInt8) : List Char → Option (Array UInt8)
  | [] => some read
  | [_] => none
  | high :: low :: rest =>
      match value? high, value? low with
      | some high, some low => decodeInto (read.push (UInt8.ofNat (16 * high + low))) rest
      | _, _ => none

def decode? (text : String) : Option Octets := (decodeInto #[] text.toList).map Array.toList

end Smpp.Hex
