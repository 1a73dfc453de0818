import Mathlib.Algebra.Order.Floor.Div
import Mathlib.Data.Nat.Bitwise
import Smpp.Proofs.Gsm.Septets

/-!
Septets at every alignment, bit by bit. Packing in place sets the bits of a septet in the one or two octets
that it reaches into, and reading by index looks them up there; neither asks for an octet that is not there.
The bits tell where each septet lies, and that packing and unpacking undo each other wherever it begins.
-/

namespace Smpp

namespace Octets

/-- The bit at a place, with the least significant bit of each octet first. Behind the octets there are
only zeros. -/
def bitAt (octets : Octets) (place : Nat) : Bool := (octets.getD (place / 8) 0).toNat.testBit (place % 8)

def mark? (octets : Octets) (index : Nat) (mask : UInt8) : Option Octets :=
  if index < octets.length then some (octets.modify index (· ||| mask)) else none

end Octets

namespace Gsm

def shifted (septet : UInt8) (bit : Nat) : UInt16 := (septet &&& 0x7F).toUInt16 <<< UInt16.ofNat (bit % 8)

def placeSeptet? (packed : Octets) (bit : Nat) (septet : UInt8) : Option Octets := do
  let value := shifted septet bit
  let packed ← packed.mark? (bit / 8) value.toUInt8
  if 0xFF < value then packed.mark? (bit / 8 + 1) (value >>> 8).toUInt8 else some packed

def placeSeptets? (packed : Octets) (bit : Nat) : Octets → Option Octets
  | [] => some packed
  | septet :: rest => do
      let packed ← placeSeptet? packed bit septet
      placeSeptets? packed (bit + 7) rest

def packInPlace? (septets : Octets) (fill : Nat) : Option Octets :=
  placeSeptets? (List.replicate ((fill + septets.length * 7) ⌈/⌉ 8) 0) fill septets

def septetAt? (packed : Octets) (bit : Nat) : Option UInt8 := do
  let low ← packed[bit / 8]?
  let high := packed.getD (bit / 8 + 1) 0
  some (((high.toUInt16 <<< 8 ||| low.toUInt16) >>> UInt16.ofNat (bit % 8)) &&& 0x7F).toUInt8

def readSeptets (packed : Octets) (bit : Nat) : Nat → Octets
  | 0 => []
  | count + 1 =>
      match septetAt? packed bit with
      | none => []
      | some septet => septet :: readSeptets packed (bit + 7) count

def placeInWords? (packed : Octets) (bit : UInt64) : Octets → Option Octets
  | [] => some packed
  | septet :: rest => do
      let packed ← placeSeptet? packed bit.toNat septet
      placeInWords? packed (bit + 7) rest

def packInWords? (septets : Octets) (fill : UInt64) : Option Octets :=
  placeInWords? (List.replicate ((fill + UInt64.ofNat septets.length * 7).toNat ⌈/⌉ 8) 0) fill septets

def readInWords (packed : Octets) (bit : UInt64) : Nat → Octets
  | 0 => []
  | count + 1 =>
      match septetAt? packed bit.toNat with
      | none => []
      | some septet => septet :: readInWords packed (bit + 7) count

theorem toNat_add_seven {bit : UInt64} (small : bit.toNat + 7 < 2 ^ 64) : (bit + 7).toNat = bit.toNat + 7 := by
  rw [UInt64.toNat_add]
  exact Nat.mod_eq_of_lt small

theorem placeInWords?_eq (septets : Octets) {packed : Octets} {bit : UInt64}
    (small : bit.toNat + 7 * septets.length < 2 ^ 64) :
    placeInWords? packed bit septets = placeSeptets? packed bit.toNat septets := by
  induction septets generalizing packed bit with
  | nil => rfl
  | cons septet rest ih =>
      rw [List.length_cons] at small
      have next : (bit + 7).toNat = bit.toNat + 7 := toNat_add_seven (by omega)
      rw [placeInWords?, placeSeptets?]
      cases placeSeptet? packed bit.toNat septet with
      | none => rfl
      | some placed =>
          simp only [Option.bind_eq_bind, Option.bind_some]
          rw [ih (by omega), next]

theorem packInWords?_eq {septets : Octets} {fill : UInt64} (small : fill.toNat + 7 * septets.length < 2 ^ 64) :
    packInWords? septets fill = packInPlace? septets fill.toNat := by
  have total : (fill + UInt64.ofNat septets.length * 7).toNat = fill.toNat + septets.length * 7 := by
    have seven : (7 : UInt64).toNat = 7 := rfl
    rw [UInt64.toNat_add, UInt64.toNat_mul, UInt64.toNat_ofNat', seven]
    omega
  rw [packInWords?, placeInWords?_eq septets small, total, packInPlace?]

theorem readInWords_eq {packed : Octets} {bit : UInt64} {count : Nat}
    (small : bit.toNat + 7 * count < 2 ^ 64) :
    readInWords packed bit count = readSeptets packed bit.toNat count := by
  induction count generalizing bit with
  | zero => rfl
  | succ count ih =>
      have next : (bit + 7).toNat = bit.toNat + 7 := toNat_add_seven (by omega)
      rw [readInWords, readSeptets]
      cases septetAt? packed bit.toNat with
      | none => rfl
      | some septet => simp only [ih (by omega : (bit + 7).toNat + 7 * count < 2 ^ 64), next]

end Gsm

namespace Octets

variable {octets other : Octets} {index : Nat}

theorem testBit_octet (octet : UInt8) {offset : Nat} (beyond : 8 ≤ offset) :
    octet.toNat.testBit offset = false := by
  have power : 2 ^ 8 ≤ 2 ^ offset := Nat.pow_le_pow_right (by decide) beyond
  exact Nat.testBit_lt_two_pow (Nat.lt_of_lt_of_le octet.toNat_lt power)

theorem eq_of_bitAt (sameLength : octets.length = other.length)
    (sameBits : ∀ place, octets.bitAt place = other.bitAt place) : octets = other := by
  refine List.ext_getElem sameLength fun index inside otherInside => ?_
  apply UInt8.toNat_inj.mp
  apply Nat.eq_of_testBit_eq
  intro offset
  by_cases low : offset < 8
  · have same := sameBits (8 * index + offset)
    have place : (8 * index + offset) / 8 = index := by omega
    have bit : (8 * index + offset) % 8 = offset := by omega
    rw [bitAt, bitAt, place, bit, List.getD_eq_getElem _ _ inside, List.getD_eq_getElem _ _ otherInside] at same
    exact same
  · rw [testBit_octet _ (by omega), testBit_octet _ (by omega)]

theorem mark?_of_lt (inside : index < octets.length) (mask : UInt8) :
    ∃ marked, octets.mark? index mask = some marked ∧ marked.length = octets.length ∧
      ∀ place, marked.bitAt place =
        (octets.bitAt place || (decide (place / 8 = index) && mask.toNat.testBit (place % 8))) := by
  refine ⟨_, if_pos inside, List.length_modify .., fun place => ?_⟩
  rw [bitAt, bitAt, List.getD_eq_getElem?_getD, List.getD_eq_getElem?_getD, List.getElem?_modify]
  by_cases here : place / 8 = index
  · rw [here, List.getElem?_eq_getElem inside]
    simp only [if_true, Option.map_eq_map, Option.map_some, Option.getD_some, UInt8.toNat_or, Nat.testBit_or,
      decide_true, Bool.true_and]
  · simp only [Ne.symm here, here, if_false, Option.map_eq_map, Option.map_id', decide_false, Bool.false_and,
      Bool.or_false]

end Octets

namespace Gsm

def laidOut (septets : Octets) (start place : Nat) : Bool :=
  decide (start ≤ place) && (septets.getD ((place - start) / 7) 0).toNat.testBit ((place - start) % 7)

def stands (septet : UInt8) (start place : Nat) : Bool :=
  decide (start ≤ place ∧ place < start + 7) && septet.toNat.testBit (place - start)

theorem laidOut_cons (septet : UInt8) (rest : Octets) (start place : Nat) :
    laidOut (septet :: rest) start place = (stands septet start place || laidOut rest (start + 7) place) := by
  unfold laidOut stands
  by_cases before : place < start
  · have here : ¬ start ≤ place := by omega
    have there : ¬ start + 7 ≤ place := by omega
    simp only [here, there, false_and, decide_false, Bool.false_and, Bool.or_false]
  · by_cases inside : place < start + 7
    · have first : (place - start) / 7 = 0 := by omega
      have offset : (place - start) % 7 = place - start := by omega
      have there : ¬ start + 7 ≤ place := by omega
      have here : start ≤ place := by omega
      simp only [first, offset, there, here, inside, and_self, decide_true, decide_false, Bool.true_and,
        Bool.false_and, Bool.or_false, List.getD_cons_zero]
    · have later : (place - start) / 7 = (place - (start + 7)) / 7 + 1 := by omega
      have offset : (place - start) % 7 = (place - (start + 7)) % 7 := by omega
      have there : start + 7 ≤ place := by omega
      have here : start ≤ place := by omega
      simp only [later, offset, there, here, inside, and_false, decide_true, decide_false, Bool.true_and,
        Bool.false_and, Bool.false_or, List.getD_cons_succ]

theorem laidOut_of_lt {septets : Octets} {start place : Nat} (before : place < start) :
    laidOut septets start place = false := by
  unfold laidOut
  simp only [Nat.not_le.mpr before, decide_false, Bool.false_and]

theorem laidOut_of_le {septets : Octets} {start place : Nat} (behind : start + 7 * septets.length ≤ place) :
    laidOut septets start place = false := by
  have none : septets.getD ((place - start) / 7) 0 = 0 := List.getD_eq_default septets 0 (by omega)
  rw [laidOut, none]
  simp

theorem laidOut_of_index {septets : Octets} {start index offset : Nat} (inside : index < septets.length)
    (low : offset < 7) :
    laidOut septets start (start + 7 * index + offset) = septets[index].toNat.testBit offset := by
  have here : start ≤ start + 7 * index + offset := by omega
  have which : (start + 7 * index + offset - start) / 7 = index := by omega
  have bit : (start + 7 * index + offset - start) % 7 = offset := by omega
  simp only [laidOut, here, which, bit, decide_true, Bool.true_and, List.getD_eq_getElem _ _ inside]

theorem toNat_ofNat_shift (bit : Nat) : (UInt16.ofNat (bit % 8)).toNat % 16 = bit % 8 := by
  rw [UInt16.toNat_ofNat']
  omega

theorem toNat_shifted (septet : UInt8) (bit : Nat) :
    (shifted septet bit).toNat = (septet.toNat % 2 ^ 7) <<< (bit % 8) := by
  have mask : (0x7F : UInt8).toNat = 2 ^ 7 - 1 := rfl
  have bound : (septet.toNat % 2 ^ 7) <<< (bit % 8) < 2 ^ 16 := by
    have septetBound : septet.toNat % 2 ^ 7 ≤ 2 ^ 7 := Nat.le_of_lt (Nat.mod_lt _ (by decide))
    have power : 2 ^ (bit % 8) ≤ 2 ^ 7 := Nat.pow_le_pow_right (by decide) (by omega)
    rw [Nat.shiftLeft_eq]
    exact Nat.lt_of_le_of_lt (Nat.mul_le_mul septetBound power) (by decide)
  rw [shifted, UInt16.toNat_shiftLeft, UInt8.toNat_toUInt16, UInt8.toNat_and, mask,
    Nat.and_two_pow_sub_one_eq_mod, toNat_ofNat_shift, Nat.mod_eq_of_lt bound]

theorem toNat_high (value : UInt16) : (value >>> 8).toUInt8.toNat = value.toNat >>> 8 := by
  have eight : (8 : UInt16).toNat % 16 = 8 := rfl
  have bound : value.toNat >>> 8 < 2 ^ 8 := by
    have below := value.toNat_lt
    rw [Nat.shiftRight_eq_div_pow]
    omega
  rw [UInt16.toNat_toUInt8, UInt16.toNat_shiftRight, eight, Nat.mod_eq_of_lt bound]

theorem testBit_shifted (septet : UInt8) (bit place : Nat) :
    ((decide (place / 8 = bit / 8) && ((shifted septet bit).toNat % 2 ^ 8).testBit (place % 8)) ||
      (decide (place / 8 = bit / 8 + 1) && ((shifted septet bit).toNat >>> 8).testBit (place % 8))) =
        stands septet bit place := by
  simp only [stands, toNat_shifted, Nat.testBit_mod_two_pow, Nat.testBit_shiftLeft, Nat.testBit_shiftRight]
  have low : place % 8 < 8 := Nat.mod_lt _ (by decide)
  by_cases first : place / 8 = bit / 8
  · have notSecond : ¬ bit / 8 = bit / 8 + 1 := by omega
    simp only [first, notSecond, low, decide_true, decide_false, Bool.true_and, Bool.false_and, Bool.or_false]
    by_cases reached : bit ≤ place
    · have behind : bit % 8 ≤ place % 8 := by omega
      have offset : place % 8 - bit % 8 = place - bit := by omega
      have near : place - bit < 7 ↔ place < bit + 7 := by omega
      simp only [behind, reached, offset, near, true_and, decide_true, Bool.true_and]
    · have before : ¬ bit % 8 ≤ place % 8 := by omega
      simp only [before, reached, false_and, decide_false, Bool.false_and]
  · by_cases second : place / 8 = bit / 8 + 1
    · have notFirst : ¬ bit / 8 + 1 = bit / 8 := by omega
      have reached : bit ≤ place := by omega
      have behind : bit % 8 ≤ 8 + place % 8 := by omega
      have offset : 8 + place % 8 - bit % 8 = place - bit := by omega
      have near : place - bit < 7 ↔ place < bit + 7 := by omega
      simp only [second, notFirst, behind, reached, offset, near, true_and, decide_true, decide_false,
        Bool.true_and, Bool.false_and, Bool.false_or]
    · have outside : ¬ (bit ≤ place ∧ place < bit + 7) := by omega
      simp only [first, second, outside, decide_false, Bool.false_and, Bool.or_false]

/-- A septet that reaches into the next octet begins so late that this octet is there. -/
theorem lt_of_spill {packed : Octets} {septet : UInt8} {bit : Nat} (spills : 0xFF < shifted septet bit)
    (room : bit + 7 ≤ 8 * packed.length) : bit / 8 + 1 < packed.length := by
  by_contra last
  have large : 2 ^ 8 ≤ (shifted septet bit).toNat := UInt16.lt_iff_toNat_lt.mp spills
  have power : 2 ^ (bit % 8) ≤ 2 ^ 1 := Nat.pow_le_pow_right (by decide) (by omega)
  have septetBound : septet.toNat % 2 ^ 7 ≤ 127 := by omega
  have product := Nat.mul_le_mul septetBound power
  rw [toNat_shifted, Nat.shiftLeft_eq] at large
  omega

theorem placeSeptet?_of_room {packed : Octets} {bit : Nat} (septet : UInt8)
    (room : bit + 7 ≤ 8 * packed.length) :
    ∃ placed, placeSeptet? packed bit septet = some placed ∧ placed.length = packed.length ∧
      ∀ place, placed.bitAt place = (packed.bitAt place || stands septet bit place) := by
  have inside : bit / 8 < packed.length := by omega
  obtain ⟨marked, first, length, bits⟩ := Octets.mark?_of_lt inside (shifted septet bit).toUInt8
  rw [UInt16.toNat_toUInt8] at bits
  by_cases spills : 0xFF < shifted septet bit
  · have further := lt_of_spill spills room
    rw [← length] at further
    obtain ⟨placed, second, sameLength, allBits⟩ :=
      Octets.mark?_of_lt further (shifted septet bit >>> 8).toUInt8
    rw [toNat_high] at allBits
    refine ⟨placed, ?_, sameLength.trans length, fun place => ?_⟩
    · change (packed.mark? (bit / 8) (shifted septet bit).toUInt8).bind _ = _
      rw [first, Option.bind_some, if_pos spills, second]
    · rw [allBits, bits, Bool.or_assoc, testBit_shifted]
  · have nothing : (shifted septet bit).toNat >>> 8 = 0 := by
      have bound := UInt16.le_iff_toNat_le.mp (UInt16.not_lt.mp spills)
      rw [Nat.shiftRight_eq_div_pow]
      exact Nat.div_eq_of_lt (Nat.lt_succ_of_le bound)
    refine ⟨marked, ?_, length, fun place => ?_⟩
    · change (packed.mark? (bit / 8) (shifted septet bit).toUInt8).bind _ = _
      rw [first, Option.bind_some, if_neg spills]
    · rw [bits, ← testBit_shifted, nothing, Nat.zero_testBit, Bool.and_false, Bool.or_false]

theorem placeSeptets?_of_room (septets : Octets) {packed : Octets} {bit : Nat}
    (room : bit + 7 * septets.length ≤ 8 * packed.length) :
    ∃ placed, placeSeptets? packed bit septets = some placed ∧ placed.length = packed.length ∧
      ∀ place, placed.bitAt place = (packed.bitAt place || laidOut septets bit place) := by
  induction septets generalizing packed bit with
  | nil =>
      refine ⟨packed, rfl, rfl, fun place => ?_⟩
      simp [laidOut]
  | cons septet rest ih =>
      rw [List.length_cons] at room
      have firstRoom : bit + 7 ≤ 8 * packed.length := by omega
      obtain ⟨placed, first, length, bits⟩ := placeSeptet?_of_room septet firstRoom
      have othersRoom : bit + 7 + 7 * rest.length ≤ 8 * placed.length := by omega
      obtain ⟨all, others, allLength, allBits⟩ := ih othersRoom
      refine ⟨all, ?_, allLength.trans length, fun place => ?_⟩
      · rw [placeSeptets?, first]
        exact others
      · rw [allBits, bits, laidOut_cons, Bool.or_assoc]

theorem getD_replicate_self {α : Type} (count : Nat) (value : α) (index : Nat) :
    (List.replicate count value).getD index value = value := by
  by_cases inside : index < count
  · rw [List.getD_replicate _ inside]
  · exact List.getD_eq_default _ _ (by rw [List.length_replicate]; omega)

theorem getD_bitsOf {width offset : Nat} (low : offset < width) (value : Nat) :
    (bitsOf width value).getD offset false = value.testBit offset := by
  induction width generalizing value offset with
  | zero => omega
  | succ width ih =>
      cases offset with
      | zero =>
          rw [bitsOf, List.getD_cons_zero, Nat.testBit_zero]
          rcases Nat.mod_two_eq_zero_or_one value with even | odd
          · rw [even]
            rfl
          · rw [odd]
            rfl
      | succ offset => rw [bitsOf, List.getD_cons_succ, ih (by omega), Nat.testBit_succ]

theorem getD_flatMap_bitsOf {width : Nat} (octets : Octets) (index : Nat) {offset : Nat} (low : offset < width) :
    (octets.flatMap fun octet => bitsOf width octet.toNat).getD (width * index + offset) false =
      (octets.getD index 0).toNat.testBit offset := by
  induction octets generalizing index with
  | nil => simp
  | cons octet rest ih =>
      rw [List.flatMap_cons]
      cases index with
      | zero =>
          rw [Nat.mul_zero, Nat.zero_add, List.getD_append _ _ _ _ (by rwa [length_bitsOf]), getD_bitsOf low,
            List.getD_cons_zero]
      | succ index =>
          have place : width * (index + 1) + offset - width = width * index + offset := by
            rw [Nat.mul_succ]
            omega
          have behind : width ≤ width * (index + 1) + offset := by
            rw [Nat.mul_succ]
            omega
          rw [List.getD_append_right _ _ _ _ (by rwa [length_bitsOf]), length_bitsOf, place, ih,
            List.getD_cons_succ]

theorem getD_bitString (octets : Octets) (place : Nat) :
    (bitString octets).getD place false = octets.bitAt place := by
  have low : place % 8 < 8 := Nat.mod_lt _ (by decide)
  have same := getD_flatMap_bitsOf octets (place / 8) low
  rwa [Nat.div_add_mod] at same

theorem bitAt_pack (septets : Octets) (fill place : Nat) :
    (pack septets fill).bitAt place = laidOut septets fill place := by
  obtain ⟨padding, _, carried⟩ := bitString_ofBitString
    (List.replicate fill false ++ septets.flatMap fun septet => bitsOf 7 septet.toNat)
  rw [← getD_bitString, pack, carried, List.append_assoc]
  by_cases filled : place < fill
  · rw [laidOut_of_lt filled, List.getD_append _ _ _ _ (by rwa [List.length_replicate]),
      List.getD_replicate _ filled]
  · rw [List.getD_append_right _ _ _ _ (by rw [List.length_replicate]; omega), List.length_replicate]
    have here : fill ≤ place := by omega
    by_cases inside : place < fill + 7 * septets.length
    · have low : (place - fill) % 7 < 7 := Nat.mod_lt _ (by decide)
      have same := getD_flatMap_bitsOf septets ((place - fill) / 7) low
      rw [Nat.div_add_mod] at same
      rw [List.getD_append _ _ _ _ (by rw [length_flatMap_bits]; omega), same]
      simp only [laidOut, here, decide_true, Bool.true_and]
    · rw [laidOut_of_le (by omega), List.getD_append_right _ _ _ _ (by rw [length_flatMap_bits]; omega),
        getD_replicate_self]

theorem ceilDiv_octet (bits : Nat) : bits ⌈/⌉ 8 = (bits + 7) / 8 := Nat.ceilDiv_eq_add_pred_div bits 8

theorem packInPlace?_eq (septets : Octets) (fill : Nat) : packInPlace? septets fill = some (pack septets fill) := by
  have ceiling := ceilDiv_octet (fill + septets.length * 7)
  have room : fill + 7 * septets.length ≤
      8 * (List.replicate ((fill + septets.length * 7) ⌈/⌉ 8) (0 : UInt8)).length := by
    rw [List.length_replicate, ceiling]
    omega
  obtain ⟨placed, done, length, bits⟩ := placeSeptets?_of_room septets room
  rw [packInPlace?, done, Option.some.injEq]
  apply Octets.eq_of_bitAt
  · rw [length, List.length_replicate, length_pack, ceiling, Nat.mul_comm]
  · intro place
    have clear : Octets.bitAt (List.replicate ((fill + septets.length * 7) ⌈/⌉ 8) 0) place = false := by
      rw [Octets.bitAt, getD_replicate_self]
      exact Nat.zero_testBit _
    rw [bits, clear, Bool.false_or, bitAt_pack]

theorem testBit_ofBits (bits : List Bool) (offset : Nat) : (ofBits bits).testBit offset = bits.getD offset false := by
  induction bits generalizing offset with
  | nil => simp [ofBits]
  | cons bit rest ih =>
      cases offset with
      | zero => cases bit <;> simp [ofBits, Nat.testBit_zero, Nat.add_mod]
      | succ offset =>
          have bound := Bool.toNat_lt bit
          have half : (bit.toNat + 2 * ofBits rest) / 2 = ofBits rest := by omega
          rw [ofBits, Nat.testBit_succ, half, ih, List.getD_cons_succ]

theorem eq_ofNat_ofBits {octet : UInt8} {bits : List Bool}
    (same : ∀ offset, octet.toNat.testBit offset = (decide (offset < 7) && bits.getD offset false)) :
    octet = UInt8.ofNat (ofBits (bits.take 7)) := by
  have bound := ofBits_lt (bits.take 7)
  have power : 2 ^ (bits.take 7).length ≤ 2 ^ 7 := Nat.pow_le_pow_right (by decide) (List.length_take_le ..)
  apply UInt8.toNat_inj.mp
  rw [UInt8.toNat_ofNat', Nat.mod_eq_of_lt (by omega)]
  apply Nat.eq_of_testBit_eq
  intro offset
  rw [same, testBit_ofBits, List.getD_eq_getElem?_getD, List.getD_eq_getElem?_getD, List.getElem?_take]
  by_cases low : offset < 7
  · simp only [low, decide_true, Bool.true_and, if_true]
  · simp only [low, decide_false, Bool.false_and, if_false, Option.getD_none]

theorem septetAt?_of_lt {packed : Octets} {bit : Nat} (inside : bit < 8 * packed.length) :
    ∃ septet, septetAt? packed bit = some septet ∧
      ∀ offset, septet.toNat.testBit offset = (decide (offset < 7) && packed.bitAt (bit + offset)) := by
  have found : bit / 8 < packed.length := by omega
  refine ⟨_, by rw [septetAt?, List.getElem?_eq_getElem found]; rfl, fun offset => ?_⟩
  have mask : (0x7F : UInt16).toNat = 2 ^ 7 - 1 := rfl
  have eight : (8 : UInt16).toNat % 16 = 8 := rfl
  have lowOctet : packed[bit / 8] = packed.getD (bit / 8) 0 := (List.getD_eq_getElem _ _ found).symm
  simp only [UInt16.toNat_toUInt8, UInt16.toNat_and, UInt16.toNat_shiftRight, UInt16.toNat_or,
    UInt16.toNat_shiftLeft, UInt8.toNat_toUInt16, toNat_ofNat_shift, mask, eight, Nat.and_two_pow_sub_one_eq_mod,
    Nat.testBit_mod_two_pow, Nat.testBit_shiftRight, Nat.testBit_or, Nat.testBit_shiftLeft, lowOctet]
  by_cases low : offset < 7
  · have lower : offset < 8 := by omega
    have wide : bit % 8 + offset < 16 := by omega
    simp only [low, lower, wide, decide_true, Bool.true_and]
    by_cases first : bit % 8 + offset < 8
    · have octet : (bit + offset) / 8 = bit / 8 := by omega
      have place : (bit + offset) % 8 = bit % 8 + offset := by omega
      have notHigh : ¬ 8 ≤ bit % 8 + offset := by omega
      simp only [Octets.bitAt, octet, place, notHigh, decide_false, Bool.false_and, Bool.false_or]
    · have octet : (bit + offset) / 8 = bit / 8 + 1 := by omega
      have place : (bit + offset) % 8 = bit % 8 + offset - 8 := by omega
      have high : 8 ≤ bit % 8 + offset := by omega
      rw [Octets.testBit_octet (packed.getD (bit / 8) 0) high]
      simp only [Octets.bitAt, octet, place, high, decide_true, Bool.true_and, Bool.or_false]
  · simp only [low, decide_false, Bool.false_and, Bool.and_false]

theorem septetAt?_of_le {packed : Octets} {bit : Nat} (behind : 8 * packed.length ≤ bit) :
    septetAt? packed bit = none := by
  rw [septetAt?, List.getElem?_eq_none (by omega)]
  rfl

theorem takeSeptets_succ (count : Nat) {bits : List Bool} (some : bits ≠ []) :
    takeSeptets (count + 1) bits = UInt8.ofNat (ofBits (bits.take 7)) :: takeSeptets count (bits.drop 7) := by
  cases bits with
  | nil => exact absurd rfl some
  | cons bit rest => rfl

theorem readSeptets_eq (packed : Octets) (bit count : Nat) :
    readSeptets packed bit count = unpack packed bit count := by
  rw [unpack]
  induction count generalizing bit with
  | zero => cases (bitString packed).drop bit <;> rfl
  | succ count ih =>
      by_cases inside : bit < 8 * packed.length
      · obtain ⟨septet, found, bits⟩ := septetAt?_of_lt inside
        have some : (bitString packed).drop bit ≠ [] := by
          rw [ne_eq, List.drop_eq_nil_iff, length_bitString]
          omega
        have same : septet = UInt8.ofNat (ofBits (((bitString packed).drop bit).take 7)) := by
          apply eq_ofNat_ofBits
          intro offset
          rw [bits, ← getD_bitString, List.getD_eq_getElem?_getD, List.getD_eq_getElem?_getD, List.getElem?_drop]
        rw [readSeptets, found, takeSeptets_succ count some, List.drop_drop, ← same]
        simp only [ih]
      · have empty : (bitString packed).drop bit = [] := by
          rw [List.drop_eq_nil_iff, length_bitString]
          omega
        rw [readSeptets, septetAt?_of_le (by omega), empty]
        rfl

theorem readSeptets_of_room {packed : Octets} {bit count : Nat} (room : bit + 7 * count ≤ 8 * packed.length) :
    (readSeptets packed bit count).length = count ∧
      (∀ septet ∈ readSeptets packed bit count, septet.toNat < 128) ∧
      ∀ place, bit ≤ place → place < bit + 7 * count →
        laidOut (readSeptets packed bit count) bit place = packed.bitAt place := by
  induction count generalizing bit with
  | zero =>
      refine ⟨rfl, fun septet member => absurd member List.not_mem_nil, fun place here behind => ?_⟩
      omega
  | succ count ih =>
      have inside : bit < 8 * packed.length := by omega
      obtain ⟨septet, found, bits⟩ := septetAt?_of_lt inside
      have othersRoom : bit + 7 + 7 * count ≤ 8 * packed.length := by omega
      obtain ⟨length, low, others⟩ := ih othersRoom
      have read : readSeptets packed bit (count + 1) = septet :: readSeptets packed (bit + 7) count := by
        rw [readSeptets, found]
      rw [read]
      refine ⟨by rw [List.length_cons, length], ?_, ?_⟩
      · refine List.forall_mem_cons.mpr ⟨?_, low⟩
        change septet.toNat < 2 ^ 7
        refine Nat.lt_pow_two_of_testBit septet.toNat fun offset beyond => ?_
        rw [bits, decide_eq_false (by omega), Bool.false_and]
      · intro place here inside
        rw [laidOut_cons, stands, bits]
        by_cases first : place < bit + 7
        · have near : place - bit < 7 := by omega
          have place_eq : bit + (place - bit) = place := by omega
          rw [laidOut_of_lt first, Bool.or_false, place_eq]
          simp only [here, first, near, and_self, decide_true, Bool.true_and]
        · rw [others place (by omega) (by omega)]
          simp only [first, and_false, decide_false, Bool.false_and, Bool.false_or]

theorem takeSeptets_take {fewer count : Nat} (bound : fewer ≤ count) (bits : List Bool) :
    takeSeptets fewer bits = (takeSeptets count bits).take fewer := by
  induction fewer generalizing count bits with
  | zero => rw [takeSeptets, List.take_zero]
  | succ fewer ih =>
      obtain ⟨count, rfl⟩ : ∃ less, count = less + 1 := ⟨count - 1, by omega⟩
      cases bits with
      | nil => rfl
      | cons bit rest =>
          rw [takeSeptets, takeSeptets, ih (Nat.le_of_succ_le_succ bound)]
          rfl

/-- Packed septets fill as many octets as their bits need. Each septet has its low seven bits at its place,
all other bits are zero, and the septets are read back from there. Places of 64 bits are enough as long as all
the bits together are fewer than 2^64. -/
structure IsPacked (septets : Octets) (fill : Nat) : Prop where
  inside : packInPlace? septets fill = some (pack septets fill)
  inWords : ∀ word : UInt64, word.toNat = fill → fill + 7 * septets.length < 2 ^ 64 →
    packInWords? septets word = some (pack septets fill)
  length : (pack septets fill).length = (fill + 7 * septets.length) ⌈/⌉ 8
  filled : ∀ place < fill, (pack septets fill).bitAt place = false
  carried : ∀ index (_ : index < septets.length), ∀ offset < 7,
    (pack septets fill).bitAt (fill + 7 * index + offset) = septets[index].toNat.testBit offset
  padded : ∀ place, fill + 7 * septets.length ≤ place → (pack septets fill).bitAt place = false
  unpacked : ∀ count ≤ septets.length,
    unpack (pack septets fill) fill count = (septets.take count).map (· &&& 0x7F)

/-- As many septets as were asked for are read, and packing them again puts the same bits where they were. -/
structure IsUnpacked (packed : Octets) (fill count : Nat) : Prop where
  byIndex : readSeptets packed fill count = unpack packed fill count
  inWords : ∀ word : UInt64, word.toNat = fill → fill + 7 * count < 2 ^ 64 →
    readInWords packed word count = unpack packed fill count
  length : (unpack packed fill count).length = count
  low : ∀ septet ∈ unpack packed fill count, septet.toNat < 128
  again : ∀ place, fill ≤ place → place < fill + 7 * count →
    (pack (unpack packed fill count) fill).bitAt place = packed.bitAt place

theorem isPacked (septets : Octets) (fill : Nat) : IsPacked septets fill where
  inside := packInPlace?_eq septets fill
  inWords := by
    rintro word rfl small
    rw [packInWords?_eq small, packInPlace?_eq]
  length := by
    rw [length_pack, ceilDiv_octet]
  filled := by
    intro place before
    rw [bitAt_pack, laidOut_of_lt before]
  carried := by
    intro index inside offset low
    rw [bitAt_pack, laidOut_of_index inside low]
  padded := by
    intro place behind
    rw [bitAt_pack, laidOut_of_le behind]
  unpacked := by
    intro count bound
    have all := unpack_pack septets fill
    rw [unpack] at all ⊢
    rw [takeSeptets_take bound, all, List.map_take]

/-- Packing and unpacking are inverse at every alignment. -/
theorem inverse_at_every_alignment (fill : Nat) :
    (∀ septets, IsPacked septets fill) ∧
      ∀ packed count, fill + 7 * count ≤ 8 * packed.length → IsUnpacked packed fill count := by
  refine ⟨fun septets => isPacked septets fill, fun packed count room => ?_⟩
  obtain ⟨length, low, bits⟩ := readSeptets_of_room room
  have same := readSeptets_eq packed fill count
  rw [same] at length low bits
  refine ⟨same, ?_, length, low, fun place here inside => ?_⟩
  · rintro word rfl small
    rw [readInWords_eq small, same]
  · rw [bitAt_pack, bits place here inside]

def sampleOctets : Octets := [0xAF, 0x9D, 0xFF]

theorem inverse_at_every_alignment_sample :
    3 + 7 * 2 ≤ 8 * sampleOctets.length ∧ unpack sampleOctets 3 2 = [0x35, 0x67] ∧
      (∀ place, 3 ≤ place → place < 17 → (pack [0x35, 0x67] 3).bitAt place = sampleOctets.bitAt place) ∧
      packInPlace? [0x35, 0x67] 3 = some [0xA8, 0x9D, 0x01] := by
  have room : 3 + 7 * 2 ≤ 8 * sampleOctets.length := by decide
  have read : unpack sampleOctets 3 2 = [0x35, 0x67] := by decide
  have again := ((inverse_at_every_alignment 3).2 sampleOctets 2 room).again
  rw [read] at again
  exact ⟨room, read, again, by decide⟩

end Gsm

end Smpp
