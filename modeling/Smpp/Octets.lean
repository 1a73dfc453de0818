/-!
Octet strings, and the big-endian words that a frame writes into them. The main statements say that
reading a word back from its octets gives the word, and writing it again gives the octets.
-/

namespace Smpp

abbrev Octets := List UInt8

namespace Octets

def ofWord16 (word : UInt16) : Octets :=
  [UInt8.ofNat (word.toNat / 256), UInt8.ofNat word.toNat]

def ofWord32 (word : UInt32) : Octets :=
  [UInt8.ofNat (word.toNat / 16777216), UInt8.ofNat (word.toNat / 65536),
   UInt8.ofNat (word.toNat / 256), UInt8.ofNat word.toNat]

def toWord16 (high low : UInt8) : UInt16 :=
  UInt16.ofNat (256 * high.toNat + low.toNat)

def toWord32 (first second third fourth : UInt8) : UInt32 :=
  UInt32.ofNat (256 * (256 * (256 * first.toNat + second.toNat) + third.toNat) + fourth.toNat)

@[simp] theorem length_ofWord16 (word : UInt16) : (ofWord16 word).length = 2 := rfl

@[simp] theorem length_ofWord32 (word : UInt32) : (ofWord32 word).length = 4 := rfl

theorem toWord16_ofNat (word : UInt16) :
    toWord16 (UInt8.ofNat (word.toNat / 256)) (UInt8.ofNat word.toNat) = word := by
  apply UInt16.toNat_inj.mp
  have bound := word.toNat_lt
  simp only [toWord16, UInt16.toNat_ofNat', UInt8.toNat_ofNat']
  omega

theorem toWord32_ofNat (word : UInt32) :
    toWord32 (UInt8.ofNat (word.toNat / 16777216)) (UInt8.ofNat (word.toNat / 65536))
      (UInt8.ofNat (word.toNat / 256)) (UInt8.ofNat word.toNat) = word := by
  apply UInt32.toNat_inj.mp
  have bound := word.toNat_lt
  simp only [toWord32, UInt32.toNat_ofNat', UInt8.toNat_ofNat']
  omega

theorem ofWord16_toWord16 (high low : UInt8) : ofWord16 (toWord16 high low) = [high, low] := by
  have highBound := high.toNat_lt
  have lowBound := low.toNat_lt
  simp only [ofWord16, toWord16, UInt16.toNat_ofNat', List.cons.injEq, and_true]
  constructor <;> apply UInt8.toNat_inj.mp <;> simp only [UInt8.toNat_ofNat'] <;> omega

theorem ofWord32_toWord32 (first second third fourth : UInt8) :
    ofWord32 (toWord32 first second third fourth) = [first, second, third, fourth] := by
  have firstBound := first.toNat_lt
  have secondBound := second.toNat_lt
  have thirdBound := third.toNat_lt
  have fourthBound := fourth.toNat_lt
  simp only [ofWord32, toWord32, UInt32.toNat_ofNat', List.cons.injEq, and_true]
  refine ⟨?_, ?_, ?_, ?_⟩ <;> apply UInt8.toNat_inj.mp <;> simp only [UInt8.toNat_ofNat'] <;> omega

end Octets

end Smpp
