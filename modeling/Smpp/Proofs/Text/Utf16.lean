import Smpp.Text.Utf16

/-!
UTF-16 read back. Each character begins and ends with units of its own, so that a text in whole
characters decodes to them without a replacement.
-/

namespace Smpp.Utf16

theorem decodeUnits_encodeUnits (units : List UInt16) : decodeUnits (encodeUnits units) = units := by
  induction units with
  | nil => rfl
  | cons unit rest ih =>
      rw [encodeUnits] at ih ⊢
      rw [List.flatMap_cons, Octets.ofWord16, List.cons_append, List.singleton_append, decodeUnits, ih,
        Octets.toWord16_ofNat]

theorem length_encodeUnits (units : List UInt16) : (encodeUnits units).length = 2 * units.length := by
  induction units with
  | nil => rfl
  | cons unit rest ih =>
      rw [encodeUnits] at ih ⊢
      rw [List.flatMap_cons, List.length_append, ih, Octets.length_ofWord16, List.length_cons]
      omega

theorem encodeUnits_flatMap (characters : List Char) :
    encodeUnits (characters.flatMap unitsOf) = characters.flatMap encodeCharacter := List.flatMap_assoc

theorem isHigh_iff {unit : UInt16} : isHigh unit = true ↔ 0xD800 ≤ unit.toNat ∧ unit.toNat ≤ 0xDBFF := by
  simp only [isHigh, Bool.and_eq_true, decide_eq_true_eq, UInt16.le_iff_toNat_le]
  exact Iff.rfl

theorem isLow_iff {unit : UInt16} : isLow unit = true ↔ 0xDC00 ≤ unit.toNat ∧ unit.toNat ≤ 0xDFFF := by
  simp only [isLow, Bool.and_eq_true, decide_eq_true_eq, UInt16.le_iff_toNat_le]
  exact Iff.rfl

theorem unitsOf_cases (character : Char) :
    (∃ unit, unitsOf character = [unit] ∧ isHigh unit = false ∧ isLow unit = false ∧
      unitCharacter unit = character) ∨
    ∃ high low, unitsOf character = [high, low] ∧ isHigh high = true ∧ isLow low = true ∧
      pairCharacter high low = character := by
  have valid : character.toNat < 0xD800 ∨ 0xDFFF < character.toNat ∧ character.toNat < 0x110000 :=
    character.valid
  have whole := Char.ofNat_toNat character
  simp only [unitsOf]
  split
  · rename_i basic
    have value : (UInt16.ofNat character.toNat).toNat = character.toNat := UInt16.toNat_ofNat_of_lt' basic
    have notHigh : isHigh (UInt16.ofNat character.toNat) = false := by
      rw [Bool.eq_false_iff, ne_eq, isHigh_iff, value]
      omega
    have notLow : isLow (UInt16.ofNat character.toNat) = false := by
      rw [Bool.eq_false_iff, ne_eq, isLow_iff, value]
      omega
    refine Or.inl ⟨_, rfl, notHigh, notLow, ?_⟩
    rw [unitCharacter, notHigh, notLow, value, whole]
    rfl
  · rename_i beyond
    have high : (UInt16.ofNat (0xD7C0 + character.toNat / 0x400)).toNat =
        0xD7C0 + character.toNat / 0x400 :=
      UInt16.toNat_ofNat_of_lt' (by unfold UInt16.size; omega)
    have low : (UInt16.ofNat (0xDC00 + character.toNat % 0x400)).toNat =
        0xDC00 + character.toNat % 0x400 :=
      UInt16.toNat_ofNat_of_lt' (by unfold UInt16.size; omega)
    refine Or.inr ⟨_, _, rfl, ?_, ?_, ?_⟩
    · rw [isHigh_iff, high]
      omega
    · rw [isLow_iff, low]
      omega
    · have code : 0x10000 + 0x400 * ((0xD7C0 + character.toNat / 0x400) % 0x400) +
          (0xDC00 + character.toNat % 0x400) % 0x400 = character.toNat := by omega
      rw [pairCharacter, high, low, code, whole]

theorem length_unitsOf (character : Char) : (unitsOf character).length = 1 ∨ (unitsOf character).length = 2 := by
  rcases unitsOf_cases character with ⟨unit, units, _⟩ | ⟨high, low, units, _⟩
  · exact Or.inl (by rw [units]; rfl)
  · exact Or.inr (by rw [units]; rfl)

theorem lossyCharacters_append (character : Char) (rest : List UInt16) :
    lossyCharacters (unitsOf character ++ rest) = character :: lossyCharacters rest := by
  rcases unitsOf_cases character with ⟨unit, units, notHigh, _, shown⟩ | ⟨high, low, units, isHigh, isLow, shown⟩
  · rw [units]
    cases rest with
    | nil => simp only [List.append_nil, lossyCharacters, shown]
    | cons next rest =>
        rw [List.singleton_append, lossyCharacters, notHigh, shown]
        rfl
  · rw [units, List.cons_append, List.singleton_append, lossyCharacters, isHigh, isLow, shown]
    rfl

theorem lossyCharacters_flatMap (characters : List Char) :
    lossyCharacters (characters.flatMap unitsOf) = characters := by
  induction characters with
  | nil => rfl
  | cons character rest ih => rw [List.flatMap_cons, lossyCharacters_append, ih]

theorem decodeLossy_of_units {octets : Octets} {characters : List Char}
    (units : decodeUnits octets = characters.flatMap unitsOf) :
    decodeLossy octets = String.ofList characters := by
  rw [decodeLossy, units, lossyCharacters_flatMap]

theorem decodeLossy_encode (characters : List Char) :
    decodeLossy (characters.flatMap encodeCharacter) = String.ofList characters := by
  apply decodeLossy_of_units
  rw [← encodeUnits_flatMap, decodeUnits_encodeUnits]

end Smpp.Utf16
