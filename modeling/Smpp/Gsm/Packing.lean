import Smpp.Octets

/-!
Septets packed into octets from the least significant bit on, behind a number of fill bits that are
zero. Both directions go through the bits: an octet string is the list of its bits in that order.
-/

namespace Smpp.Gsm

def bitsOf : Nat → Nat → List Bool
  | 0, _ => []
  | width + 1, value => (value % 2 == 1) :: bitsOf width (value / 2)

def ofBits : List Bool → Nat
  | [] => 0
  | bit :: rest => bit.toNat + 2 * ofBits rest

def bitString (octets : Octets) : List Bool := octets.flatMap fun octet => bitsOf 8 octet.toNat

/-- Octets that carry the bits; the last one is filled up with zeros. -/
def ofBitString : List Bool → Octets
  | [] => []
  | bit :: rest => UInt8.ofNat (ofBits ((bit :: rest).take 8)) :: ofBitString (rest.drop 7)
termination_by bits => bits.length
decreasing_by simp only [List.length_drop, List.length_cons]; omega

/-- Packs the low seven bits of each septet behind `fill` zero bits. -/
def pack (septets : Octets) (fill : Nat) : Octets :=
  ofBitString (List.replicate fill false ++ septets.flatMap fun septet => bitsOf 7 septet.toNat)

def takeSeptets : Nat → List Bool → Octets
  | 0, _ => []
  | _ + 1, [] => []
  | count + 1, bit :: rest =>
      UInt8.ofNat (ofBits ((bit :: rest).take 7)) :: takeSeptets count (rest.drop 6)

def unpack (packed : Octets) (fill count : Nat) : Octets :=
  takeSeptets count ((bitString packed).drop fill)

end Smpp.Gsm
