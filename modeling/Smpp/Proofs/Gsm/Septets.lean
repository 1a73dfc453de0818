import Mathlib.Algebra.GroupWithZero.Nat
import Smpp.Gsm.Alphabet
import Smpp.Gsm.Packing

/-!
Septets read back. Packing keeps the bits of the septets in their order, whatever the fill bits, so
that unpacking finds each of them again; and the septets of a text decode to its characters.
-/

namespace Smpp.Gsm

@[simp] theorem length_bitsOf (width value : Nat) : (bitsOf width value).length = width := by
  induction width generalizing value with
  | zero => rfl
  | succ width ih => rw [bitsOf, List.length_cons, ih]

theorem ofBits_bitsOf (width value : Nat) : ofBits (bitsOf width value) = value % 2 ^ width := by
  induction width generalizing value with
  | zero => rw [bitsOf, ofBits, Nat.pow_zero, Nat.mod_one]
  | succ width ih =>
      have first : (value % 2 == 1).toNat = value % 2 := by
        rcases Nat.mod_two_eq_zero_or_one value with even | odd
        · rw [even]; rfl
        · rw [odd]; rfl
      rw [bitsOf, ofBits, ih, first, Nat.pow_succ', Nat.mod_mul]

theorem ofBits_lt (bits : List Bool) : ofBits bits < 2 ^ bits.length := by
  induction bits with
  | nil => decide
  | cons bit rest ih =>
      have bound := Bool.toNat_lt bit
      rw [ofBits, List.length_cons, Nat.pow_succ']
      omega

theorem bitsOf_zero (width : Nat) : bitsOf width 0 = List.replicate width false := by
  induction width with
  | zero => rfl
  | succ width ih =>
      rw [bitsOf, Nat.zero_div, ih, List.replicate_succ]
      rfl

theorem bitsOf_ofBits {width : Nat} {bits : List Bool} (short : bits.length ≤ width) :
    bitsOf width (ofBits bits) = bits ++ List.replicate (width - bits.length) false := by
  induction bits generalizing width with
  | nil => exact bitsOf_zero width
  | cons bit rest ih =>
      cases width with
      | zero => simp at short
      | succ width =>
          rw [List.length_cons] at short
          have low : ((bit.toNat + 2 * ofBits rest) % 2 == 1) = bit := by
            cases bit <;> simp [Nat.add_mod]
          have high : (bit.toNat + 2 * ofBits rest) / 2 = ofBits rest := by
            have bound := Bool.toNat_lt bit
            omega
          rw [ofBits, bitsOf, low, high, ih (by omega), List.length_cons, Nat.add_sub_add_right]
          rfl

theorem bitsOf_octet {bits : List Bool} (short : bits.length ≤ 8) :
    bitsOf 8 (UInt8.ofNat (ofBits bits)).toNat = bits ++ List.replicate (8 - bits.length) false := by
  have bound := ofBits_lt bits
  have power := Nat.pow_le_pow_right (by decide : 0 < 2) short
  rw [UInt8.toNat_ofNat', Nat.mod_eq_of_lt (by omega), bitsOf_ofBits short]

theorem length_bitString (octets : Octets) : (bitString octets).length = 8 * octets.length := by
  unfold bitString
  induction octets with
  | nil => rfl
  | cons octet rest ih =>
      rw [List.flatMap_cons, List.length_append, length_bitsOf, ih, List.length_cons]
      omega

theorem bitString_ofBitString (bits : List Bool) :
    ∃ padding < 8, bitString (ofBitString bits) = bits ++ List.replicate padding false := by
  fun_induction ofBitString bits with
  | case1 => exact ⟨0, by decide, rfl⟩
  | case2 bit rest ih =>
      obtain ⟨padding, bound, carried⟩ := ih
      have front := bitsOf_octet (List.length_take_le 8 (bit :: rest))
      rw [bitString] at carried ⊢
      rw [List.flatMap_cons, front]
      by_cases whole : 8 ≤ (bit :: rest).length
      · refine ⟨padding, bound, ?_⟩
        have split : (bit :: rest).take 8 ++ rest.drop 7 = bit :: rest := List.take_append_drop 8 _
        rw [carried, List.length_take_of_le whole, Nat.sub_self, List.replicate_zero, List.append_nil,
          ← List.append_assoc, split]
      · have last : rest.drop 7 = [] := by
          rw [List.length_cons] at whole
          exact List.drop_eq_nil_of_le (by omega)
        refine ⟨8 - (bit :: rest).length, by rw [List.length_cons]; omega, ?_⟩
        rw [last, List.take_of_length_le (by omega)]
        simp [ofBitString]

theorem length_ofBitString (bits : List Bool) : (ofBitString bits).length = (bits.length + 7) / 8 := by
  fun_induction ofBitString bits with
  | case1 => rfl
  | case2 bit rest ih =>
      rw [List.length_cons, ih, List.length_drop, List.length_cons]
      omega

theorem length_flatMap_bits (septets : Octets) :
    (septets.flatMap fun septet => bitsOf 7 septet.toNat).length = 7 * septets.length := by
  induction septets with
  | nil => rfl
  | cons septet rest ih =>
      rw [List.flatMap_cons, List.length_append, length_bitsOf, ih, List.length_cons]
      omega

theorem length_pack (septets : Octets) (fill : Nat) :
    (pack septets fill).length = (fill + 7 * septets.length + 7) / 8 := by
  rw [pack, length_ofBitString, List.length_append, List.length_replicate, length_flatMap_bits]

theorem ofBits_septet (septet : UInt8) : UInt8.ofNat (ofBits (bitsOf 7 septet.toNat)) = septet &&& 0x7F := by
  apply UInt8.toNat_inj.mp
  have mask : (0x7F : UInt8).toNat = 2 ^ 7 - 1 := rfl
  rw [ofBits_bitsOf, UInt8.toNat_and, mask, Nat.and_two_pow_sub_one_eq_mod, UInt8.toNat_ofNat']
  omega

theorem takeSeptets_append {front : List Bool} (whole : front.length = 7) (count : Nat) (rest : List Bool) :
    takeSeptets (count + 1) (front ++ rest) = UInt8.ofNat (ofBits front) :: takeSeptets count rest := by
  match front, whole with
  | bit :: bits, whole =>
      have length : bits.length = 6 := by simpa using whole
      have taken : (bit :: (bits ++ rest)).take 7 = bit :: bits := by
        rw [List.take_succ_cons, List.take_left' length]
      rw [List.cons_append, takeSeptets, taken, List.drop_left' length]

theorem takeSeptets_flatMap (septets : Octets) (rest : List Bool) :
    takeSeptets septets.length ((septets.flatMap fun septet => bitsOf 7 septet.toNat) ++ rest) =
      septets.map (· &&& 0x7F) := by
  induction septets with
  | nil => rfl
  | cons septet septets ih =>
      rw [List.flatMap_cons, List.append_assoc, List.length_cons, takeSeptets_append (length_bitsOf ..), ih,
        ofBits_septet, List.map_cons]

theorem unpack_pack (septets : Octets) (fill : Nat) :
    unpack (pack septets fill) fill septets.length = septets.map (· &&& 0x7F) := by
  obtain ⟨padding, _, carried⟩ := bitString_ofBitString
    (List.replicate fill false ++ septets.flatMap fun septet => bitsOf 7 septet.toNat)
  rw [unpack, pack, carried, List.append_assoc, List.drop_left' List.length_replicate, takeSeptets_flatMap]

theorem and_mask {septet : UInt8} (low : septet.toNat < 128) : septet &&& 0x7F = septet := by
  apply UInt8.toNat_inj.mp
  have mask : (0x7F : UInt8).toNat = 2 ^ 7 - 1 := rfl
  rw [UInt8.toNat_and, mask, Nat.and_two_pow_sub_one_eq_mod, Nat.mod_eq_of_lt low]

theorem unpack_pack_of_low {septets : Octets} (low : ∀ septet ∈ septets, septet.toNat < 128) (fill : Nat) :
    unpack (pack septets fill) fill septets.length = septets := by
  rw [unpack_pack]
  exact (List.map_congr_left fun septet member => and_mask (low septet member)).trans (List.map_id _)

theorem septets?_cases {character : Char} {septets : Octets} (found : septets? character = some septets) :
    (∃ index < 128, index ≠ 27 ∧ defaultAlphabet[index]? = some character ∧
      septets = [UInt8.ofNat index]) ∨
    ∃ code, (character, code) ∈ extensionTable ∧ septets = [escapeSeptet, code] := by
  unfold septets? at found
  split at found
  · rename_i listed
    obtain ⟨notEscape, member⟩ := listed
    have bound := List.idxOf_lt_length_of_mem member
    have place : defaultAlphabet[defaultAlphabet.idxOf character]? = some character := by
      rw [List.getElem?_eq_getElem bound, List.getElem_idxOf bound]
    refine Or.inl ⟨_, bound, ?_, place, (Option.some.inj found).symm⟩
    intro escape
    rw [escape] at place
    exact notEscape (Option.some.inj place).symm
  · obtain ⟨code, looked, rfl⟩ := Option.map_eq_some_iff.mp found
    obtain ⟨before, after, table, _⟩ := List.lookup_eq_some_iff.mp looked
    refine Or.inr ⟨code, ?_, rfl⟩
    rw [table]
    exact List.mem_append_right _ List.mem_cons_self

theorem extensionTable_exact : ∀ entry ∈ extensionTable,
    extensionCharacter entry.2 = entry.1 ∧ entry.2.toNat < 128 := by decide

theorem low_of_septets? {character : Char} {septets : Octets} (found : septets? character = some septets) :
    ∀ septet ∈ septets, septet.toNat < 128 := by
  rcases septets?_cases found with ⟨index, bound, _, _, rfl⟩ | ⟨code, member, rfl⟩
  · intro septet only
    rw [List.mem_singleton.mp only, UInt8.toNat_ofNat']
    omega
  · have low := (extensionTable_exact _ member).2
    intro septet one
    rcases List.mem_cons.mp one with rfl | last
    · decide
    · rw [List.mem_singleton.mp last]
      exact low

theorem low_of_getD (character : Char) : ∀ septet ∈ (septets? character).getD [], septet.toNat < 128 := by
  cases found : septets? character with
  | none =>
      intro septet member
      cases member
  | some septets => exact low_of_septets? found

theorem length_septets? {character : Char} {septets : Octets} (found : septets? character = some septets) :
    septets.length = 1 ∨ septets.length = 2 := by
  rcases septets?_cases found with ⟨index, _, _, _, rfl⟩ | ⟨code, _, rfl⟩
  · exact Or.inl rfl
  · exact Or.inr rfl

theorem decodeCharacters_cons {septet : UInt8} (low : septet.toNat < 128) (plain : septet ≠ escapeSeptet)
    (rest : Octets) : decodeCharacters (septet :: rest) = defaultCharacter septet :: decodeCharacters rest := by
  cases rest with
  | nil => simp only [decodeCharacters, and_mask low, plain, ↓reduceIte]
  | cons code rest => simp only [decodeCharacters, and_mask low, plain, ↓reduceIte]

theorem decodeCharacters_append {character : Char} {septets : Octets}
    (found : septets? character = some septets) (rest : Octets) :
    decodeCharacters (septets ++ rest) = character :: decodeCharacters rest := by
  have low := low_of_septets? found
  rcases septets?_cases found with ⟨index, bound, notEscape, place, rfl⟩ | ⟨code, member, rfl⟩
  · have value : (UInt8.ofNat index).toNat = index := UInt8.toNat_ofNat_of_lt' (Nat.lt_trans bound (by decide))
    have plain : UInt8.ofNat index ≠ escapeSeptet := by
      intro escape
      rw [escape] at value
      exact notEscape value.symm
    have shown : defaultCharacter (UInt8.ofNat index) = character := by
      rw [defaultCharacter, value, List.getD_eq_getElem?_getD, place, Option.getD_some]
    rw [List.singleton_append, decodeCharacters_cons (low _ List.mem_cons_self) plain, shown]
  · obtain ⟨shown, codeLow⟩ := extensionTable_exact _ member
    have escape : escapeSeptet &&& 0x7F = escapeSeptet := rfl
    simp only [List.cons_append, List.nil_append, decodeCharacters, escape, ↓reduceIte, and_mask codeLow,
      shown]

theorem isRepresentable_iff {text : String} :
    isRepresentable text = true ↔ ∀ character ∈ text.toList, (septets? character).isSome = true := by
  rw [isRepresentable, List.all_eq_true]

theorem firstUnrepresentable?_eq_none {text : String} :
    firstUnrepresentable? text = none ↔ isRepresentable text = true := by
  rw [firstUnrepresentable?, List.find?_eq_none, isRepresentable_iff]
  constructor
  · intro none character member
    have found := none character member
    rwa [Bool.not_eq_true, Option.isNone_eq_false_iff] at found
  · intro all character member
    have found := all character member
    rwa [Bool.not_eq_true, Option.isNone_eq_false_iff]

def FirstUnrepresentable (text : String) (character : Char) : Prop :=
  ∃ before after, text.toList = before ++ character :: after ∧ septets? character = none ∧
    ∀ earlier ∈ before, (septets? earlier).isSome = true

theorem firstUnrepresentable?_eq_some {text : String} {character : Char} :
    firstUnrepresentable? text = some character ↔ FirstUnrepresentable text character := by
  rw [firstUnrepresentable?, List.find?_eq_some_iff_append]
  constructor
  · rintro ⟨none, before, after, split, others⟩
    refine ⟨before, after, split, Option.isNone_iff_eq_none.mp none, fun earlier member => ?_⟩
    have found := others earlier member
    rwa [Bool.not_eq_true', Option.isNone_eq_false_iff] at found
  · rintro ⟨before, after, split, none, others⟩
    refine ⟨Option.isNone_iff_eq_none.mpr none, before, after, split, fun earlier member => ?_⟩
    rw [Bool.not_eq_true', Option.isNone_eq_false_iff]
    exact others earlier member

theorem mapM_eq_some_map {α β : Type} {found? : α → Option β} {found : α → β} {entries : List α}
    (each : ∀ entry ∈ entries, found? entry = some (found entry)) :
    entries.mapM found? = some (entries.map found) := by
  induction entries with
  | nil => rfl
  | cons entry rest ih =>
      have others := ih fun other member => each other (List.mem_cons_of_mem _ member)
      rw [List.mapM_cons, each entry List.mem_cons_self, others]
      rfl

theorem encode?_ofList {characters : List Char}
    (representable : ∀ character ∈ characters, (septets? character).isSome = true) :
    encode? (String.ofList characters) =
      some (characters.flatMap fun character => (septets? character).getD []) := by
  have each : ∀ character ∈ characters, septets? character = some ((septets? character).getD []) := by
    intro character member
    obtain ⟨septets, found⟩ := Option.isSome_iff_exists.mp (representable character member)
    rw [found]
    rfl
  rw [encode?, String.toList_ofList, mapM_eq_some_map each, Option.map_some, List.flatMap_def]

theorem septetCount?_ofList {characters : List Char}
    (representable : ∀ character ∈ characters, (septets? character).isSome = true) :
    septetCount? (String.ofList characters) =
      some (characters.map fun character => ((septets? character).getD []).length).sum := by
  have each : ∀ character ∈ characters, (septets? character).map List.length =
      some ((septets? character).getD []).length := by
    intro character member
    obtain ⟨septets, found⟩ := Option.isSome_iff_exists.mp (representable character member)
    rw [found]
    rfl
  rw [septetCount?, String.toList_ofList, mapM_eq_some_map each]
  rfl

theorem decodeCharacters_flatten {characters : List Char} {found : List Octets}
    (encoded : characters.mapM septets? = some found) : decodeCharacters found.flatten = characters := by
  induction characters generalizing found with
  | nil =>
      obtain rfl := Option.some.inj encoded
      rfl
  | cons character rest ih =>
      rw [List.mapM_cons] at encoded
      obtain ⟨septets, first, encoded⟩ := Option.bind_eq_some_iff.mp encoded
      obtain ⟨others, tail, encoded⟩ := Option.bind_eq_some_iff.mp encoded
      obtain rfl := Option.some.inj encoded
      rw [List.flatten_cons, decodeCharacters_append first, ih tail]

theorem decode_of_encode? {text : String} {septets : Octets} (encoded : encode? text = some septets) :
    decode septets = text := by
  obtain ⟨found, each, rfl⟩ := Option.map_eq_some_iff.mp encoded
  rw [decode, decodeCharacters_flatten each, String.ofList_toList]

end Smpp.Gsm
