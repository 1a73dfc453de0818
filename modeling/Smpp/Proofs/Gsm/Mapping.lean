import Smpp.Proofs.Gsm.Septets

/-!
The alphabet in both directions. What can be said of a text without its septets agrees with the septets
that it has; and every list of septets reads as a text with septets, which are the same ones again as long
as no escape was read as a space.
-/

namespace Smpp.Gsm

theorem isSome_mapM_iff {α β : Type} {found? : α → Option β} {entries : List α} :
    (entries.mapM found?).isSome = true ↔ ∀ entry ∈ entries, (found? entry).isSome = true := by
  induction entries with
  | nil => simp
  | cons entry rest ih =>
      rw [List.forall_mem_cons, ← ih]
      cases first : found? entry with
      | none => simp [first]
      | some one => cases others : rest.mapM found? <;> simp [first, others]

theorem isSome_encode?_iff {text : String} :
    (encode? text).isSome = true ↔ isRepresentable text = true := by
  rw [encode?, Option.isSome_map, isSome_mapM_iff, isRepresentable_iff]

theorem isSome_septetCount?_iff {text : String} :
    (septetCount? text).isSome = true ↔ isRepresentable text = true := by
  rw [septetCount?, Option.isSome_map, isSome_mapM_iff, isRepresentable_iff]
  simp only [Option.isSome_map]

theorem encode?_of_isRepresentable {text : String} (representable : isRepresentable text = true) :
    encode? text = some (text.toList.flatMap fun character => (septets? character).getD []) := by
  have encoded := encode?_ofList (isRepresentable_iff.mp representable)
  rwa [String.ofList_toList] at encoded

theorem septetCount?_of_encode? {text : String} {septets : Octets} (encoded : encode? text = some septets) :
    septetCount? text = some septets.length := by
  have representable : isRepresentable text = true := isSome_encode?_iff.mp (by simp [encoded])
  have counted := septetCount?_ofList (isRepresentable_iff.mp representable)
  rw [String.ofList_toList] at counted
  rw [encode?_of_isRepresentable representable, Option.some.injEq] at encoded
  rw [counted, ← encoded, List.length_flatMap]

theorem low_of_encode? {text : String} {septets : Octets} (encoded : encode? text = some septets) :
    ∀ septet ∈ septets, septet.toNat < 128 := by
  have representable : isRepresentable text = true := isSome_encode?_iff.mp (by simp [encoded])
  rw [encode?_of_isRepresentable representable, Option.some.injEq] at encoded
  intro septet member
  rw [← encoded] at member
  obtain ⟨character, _, inside⟩ := List.mem_flatMap.mp member
  exact low_of_getD character septet inside

theorem mask_lt (octet : UInt8) : (octet &&& 0x7F).toNat < 128 := by
  have mask : (0x7F : UInt8).toNat = 2 ^ 7 - 1 := rfl
  rw [UInt8.toNat_and, mask, Nat.and_two_pow_sub_one_eq_mod]
  omega

theorem nodup_defaultAlphabet : defaultAlphabet.Nodup := by
  -- Numbers are compared faster than characters.
  have codes : (defaultAlphabet.map Char.toNat).Nodup := by decide +kernel
  exact List.Pairwise.of_map Char.toNat (fun _ _ differ same => differ (congrArg Char.toNat same)) codes

theorem septets?_defaultCharacter {septet : UInt8} (low : septet.toNat < 128) (plain : septet ≠ escapeSeptet) :
    septets? (defaultCharacter septet) = some [septet] := by
  have bound : septet.toNat < defaultAlphabet.length := low
  have shown : defaultCharacter septet = defaultAlphabet[septet.toNat] := by
    rw [defaultCharacter, List.getD_eq_getElem?_getD, List.getElem?_eq_getElem bound, Option.getD_some]
  have index : defaultAlphabet.idxOf defaultAlphabet[septet.toNat] = septet.toNat :=
    nodup_defaultAlphabet.idxOf_getElem _ bound
  have notEscape : defaultAlphabet[septet.toNat] ≠ '\x1B' := by
    intro escape
    have place : defaultAlphabet.idxOf '\x1B' = escapeSeptet.toNat := by decide
    rw [escape, place] at index
    exact plain (UInt8.toNat_inj.mp index.symm)
  rw [shown, septets?, if_pos ⟨notEscape, List.getElem_mem bound⟩, index, UInt8.ofNat_toNat]

theorem septets?_of_listed : ∀ entry ∈ extensionTable, septets? entry.1 = some [escapeSeptet, entry.2] := by
  decide

theorem extensionCharacter_cases (code : UInt8) :
    (extensionCharacter code, code) ∈ extensionTable ∨
      extensionCharacter code = ' ' ∧ ∀ entry ∈ extensionTable, entry.2 ≠ code := by
  unfold extensionCharacter
  cases found : extensionTable.find? fun entry => entry.2 == code with
  | none =>
      refine Or.inr ⟨rfl, ?_⟩
      intro entry member same
      exact List.find?_eq_none.mp found entry member (beq_iff_eq.mpr same)
  | some entry =>
      have member := List.mem_of_find?_eq_some found
      have same : entry.2 = code := by simpa using List.find?_some found
      rw [← same]
      exact Or.inl member

theorem isSome_extensionCharacter (code : UInt8) : (septets? (extensionCharacter code)).isSome = true := by
  rcases extensionCharacter_cases code with listed | ⟨space, _⟩
  · rw [septets?_of_listed _ listed]
    rfl
  · rw [space]
    decide

theorem isSome_of_mem_decodeCharacters (octets : Octets) :
    ∀ character ∈ decodeCharacters octets, (septets? character).isSome = true := by
  have plain : ∀ {septet : UInt8}, ¬ septet &&& 0x7F = escapeSeptet →
      (septets? (defaultCharacter (septet &&& 0x7F))).isSome = true := by
    intro septet notEscape
    rw [septets?_defaultCharacter (mask_lt septet) notEscape]
    rfl
  have space : (septets? ' ').isSome = true := by decide
  fun_induction decodeCharacters octets with
  | case1 => exact List.forall_mem_nil _
  | case2 septet low escape => exact List.forall_mem_singleton.mpr space
  | case3 septet low notEscape => exact List.forall_mem_singleton.mpr (plain notEscape)
  | case4 septet code rest low escape ih => exact List.forall_mem_cons.mpr ⟨isSome_extensionCharacter _, ih⟩
  | case5 septet code rest low notEscape ih => exact List.forall_mem_cons.mpr ⟨plain notEscape, ih⟩

theorem isRepresentable_decode (octets : Octets) : isRepresentable (decode octets) = true := by
  rw [isRepresentable_iff, decode, String.toList_ofList]
  exact isSome_of_mem_decodeCharacters octets

/-- Behind each escape that is read as one there is a code of the extension table. -/
inductive EscapesListed : Octets → Prop
  | nil : EscapesListed []
  | plain {septet : UInt8} {rest : Octets} (notEscape : septet &&& 0x7F ≠ escapeSeptet)
      (others : EscapesListed rest) : EscapesListed (septet :: rest)
  | escape {septet code : UInt8} {rest : Octets} (escape : septet &&& 0x7F = escapeSeptet)
      (listed : ∃ entry ∈ extensionTable, entry.2 = code &&& 0x7F) (others : EscapesListed rest) :
      EscapesListed (septet :: code :: rest)

def rewritten (octets : Octets) : Octets :=
  (decodeCharacters octets).flatMap fun character => (septets? character).getD []

theorem encode?_decode (octets : Octets) : encode? (decode octets) = some (rewritten octets) :=
  encode?_ofList (isSome_of_mem_decodeCharacters octets)

theorem rewritten_plain {septet : UInt8} (notEscape : septet &&& 0x7F ≠ escapeSeptet) (rest : Octets) :
    rewritten (septet :: rest) = (septet &&& 0x7F) :: rewritten rest := by
  have read : decodeCharacters (septet :: rest) =
      defaultCharacter (septet &&& 0x7F) :: decodeCharacters rest := by
    cases rest <;> simp only [decodeCharacters, notEscape, if_false]
  rw [rewritten, read, List.flatMap_cons, septets?_defaultCharacter (mask_lt septet) notEscape]
  rfl

theorem rewritten_escape {septet code : UInt8} (escape : septet &&& 0x7F = escapeSeptet) (rest : Octets) :
    rewritten (septet :: code :: rest) =
      (septets? (extensionCharacter (code &&& 0x7F))).getD [] ++ rewritten rest := by
  simp only [rewritten, decodeCharacters, escape, if_true, List.flatMap_cons]

theorem septets?_of_escaped {code : UInt8} (listed : ∃ entry ∈ extensionTable, entry.2 = code) :
    septets? (extensionCharacter code) = some [escapeSeptet, code] := by
  obtain ⟨entry, member, same⟩ := listed
  rcases extensionCharacter_cases code with found | ⟨_, none⟩
  · exact septets?_of_listed _ found
  · exact absurd same (none entry member)

theorem EscapesListed.rewritten_eq {octets : Octets} (listed : EscapesListed octets) :
    rewritten octets = octets.map (· &&& 0x7F) := by
  induction listed with
  | nil => rfl
  | plain notEscape _ ih => rw [rewritten_plain notEscape, ih, List.map_cons]
  | escape escape listed _ ih =>
      rw [rewritten_escape escape, septets?_of_escaped listed, ih, List.map_cons, List.map_cons, escape]
      rfl

/-- An escape that is read as a space shows at its place: the septet of the space stands there. -/
theorem escapesListed_of_rewritten {octets : Octets} (same : rewritten octets = octets.map (· &&& 0x7F)) :
    EscapesListed octets := by
  have space : (septets? ' ').getD [] = [0x20] := by decide
  fun_induction decodeCharacters octets with
  | case1 => exact .nil
  | case2 septet low escape =>
      have masked : septet &&& 0x7F = escapeSeptet := escape
      have alone : rewritten [septet] = [0x20] := by
        simp only [rewritten, decodeCharacters, masked, if_true, List.flatMap_singleton, space]
      rw [alone, List.map_singleton, masked] at same
      exact absurd same (by decide)
  | case3 septet low notEscape => exact .plain notEscape .nil
  | case4 septet code rest low escape ih =>
      have masked : septet &&& 0x7F = escapeSeptet := escape
      rw [rewritten_escape masked, List.map_cons, List.map_cons, masked] at same
      rcases extensionCharacter_cases (code &&& 0x7F) with listed | ⟨blank, _⟩
      · rw [septets?_of_listed _ listed, Option.getD_some] at same
        exact .escape escape ⟨_, listed, rfl⟩ (ih (List.cons.inj (List.cons.inj same).2).2)
      · rw [blank, space] at same
        exact absurd (List.cons.inj same).1 (by decide)
  | case5 septet code rest low notEscape ih =>
      rw [rewritten_plain notEscape, List.map_cons] at same
      exact .plain notEscape (ih (List.cons.inj same).2)

/-- All that is said about a text agrees: whether it has septets, how many, which ones, and which of its
characters is the first that has none. -/
structure IsMapped (text : String) : Prop where
  first : firstUnrepresentable? text = none ↔ isRepresentable text = true
  encoded : (encode? text).isSome = true ↔ isRepresentable text = true
  counted : (septetCount? text).isSome = true ↔ isRepresentable text = true
  named : ∀ character, firstUnrepresentable? text = some character ↔ FirstUnrepresentable text character
  exact : ∀ septets, encode? text = some septets → septetCount? text = some septets.length ∧
    (∀ septet ∈ septets, septet.toNat < 128) ∧ decode septets = text

/-- Septets read as a text that has septets. They are the same ones, seven bits of each octet, if and only
if no escape was lost; and in any case they read as the same text. -/
structure IsRead (octets : Octets) : Prop where
  representable : isRepresentable (decode octets) = true
  kept : encode? (decode octets) = some (octets.map (· &&& 0x7F)) ↔ EscapesListed octets
  again : ∃ septets, encode? (decode octets) = some septets ∧ decode septets = decode octets

/-- The mapping between texts and septets is exact in both directions. -/
theorem mapping_exact (text : String) (octets : Octets) : IsMapped text ∧ IsRead octets := by
  refine ⟨⟨firstUnrepresentable?_eq_none, isSome_encode?_iff, isSome_septetCount?_iff,
    fun _ => firstUnrepresentable?_eq_some, ?_⟩, ?_⟩
  · intro septets encoded
    exact ⟨septetCount?_of_encode? encoded, low_of_encode? encoded, decode_of_encode? encoded⟩
  · have encoded := encode?_decode octets
    refine ⟨isRepresentable_decode octets, ?_, ⟨_, encoded, decode_of_encode? encoded⟩⟩
    rw [encoded, Option.some.injEq]
    exact ⟨escapesListed_of_rewritten, EscapesListed.rewritten_eq⟩

/-- An escape behind an escape is read with it, and the code behind them stands for itself. -/
example : decode [0x1B, 0x1B, 0x65] = " e" ∧ encode? " e" = some [0x20, 0x65] := by decide

end Smpp.Gsm
