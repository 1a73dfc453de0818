import Smpp.Gsm.Alphabet
import Smpp.Gsm.Packing
import Smpp.Text.Numeral
import Smpp.Text.Utf8
import Smpp.Text.Utf16

/-!
The data coding of a short message and the text that its octets carry under it.
-/

namespace Smpp

inductive Charset
  | gsm | ascii | binary | latin1 | ucs2 | reserved
  deriving DecidableEq, Repr

def Charset.name : Charset → String
  | gsm => "GSM 7-bit Default"
  | ascii => "ASCII/IA5"
  | binary => "Binary"
  | latin1 => "ISO-8859-1"
  | ucs2 => "UCS-2"
  | reserved => "Custom/Reserved"

structure DataCoding where
  octet : UInt8
  deriving DecidableEq, Repr

namespace DataCoding

def gsm : DataCoding := ⟨0x00⟩

def ascii : DataCoding := ⟨0x01⟩

def binary : DataCoding := ⟨0x02⟩

def latin1 : DataCoding := ⟨0x03⟩

def ucs2 : DataCoding := ⟨0x08⟩

instance : Inhabited DataCoding := ⟨gsm⟩

def charset (coding : DataCoding) : Charset :=
  match coding.octet with
  | 0x00 => .gsm
  | 0x01 => .ascii
  | 0x02 => .binary
  | 0x03 => .latin1
  | 0x08 => .ucs2
  | _ => .reserved

def isUnicode (coding : DataCoding) : Bool := coding.charset = .ucs2

def description (coding : DataCoding) : String :=
  s!"DataCoding(0x{Numeral.upperHexadecimal 2 coding.octet.toNat} {coding.charset.name})"

def decodeText (coding : DataCoding) (userData : Octets) : String :=
  match coding.charset with
  | .gsm => Gsm.decode userData
  | .latin1 => String.ofList (userData.map fun octet => Char.ofNat octet.toNat)
  | .ucs2 => Utf16.decodeLossy userData
  | .ascii | .binary | .reserved => Utf8.decodeLossy userData

/-- The septets of packed user data. A zero in a last place that the octets fill to the end is
padding and no character. -/
def packedSeptets (userData : Octets) (fill : Nat) : Octets :=
  let bits := userData.length * 8 - fill
  let septets := Gsm.unpack userData fill (bits / 7)
  if bits % 7 = 0 ∧ septets.getLast? = some 0 then septets.dropLast else septets

def decodePackedText (coding : DataCoding) (userData : Octets) (fill : Nat) : String :=
  match coding.charset with
  | .gsm => Gsm.decode (packedSeptets userData fill)
  | _ => coding.decodeText userData

end DataCoding

end Smpp
