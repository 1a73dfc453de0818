import Smpp.Proofs.Message.Segmentation

/-!
Packed text read without a count of its septets. The octets tell how many septets there are, except that
seven zero bits at the end of the last octet may be padding or an at sign; they are taken for padding. So a
text comes back whole, or without an at sign that ends both the text and the last octet.
-/

namespace Smpp

namespace Gsm

/-- What is read of a text that fills so many bits. -/
def legible (bits : Nat) (characters : List Char) : List Char :=
  if 8 ∣ bits ∧ characters.getLast? = some '@' then characters.dropLast else characters

theorem bitString_pack (septets : Octets) (fill : Nat) :
    ∃ padding < 8, 8 * (pack septets fill).length = fill + 7 * septets.length + padding ∧
      (bitString (pack septets fill)).drop fill =
        (septets.flatMap fun septet => bitsOf 7 septet.toNat) ++ List.replicate padding false := by
  obtain ⟨padding, bound, carried⟩ := bitString_ofBitString
    (List.replicate fill false ++ septets.flatMap fun septet => bitsOf 7 septet.toNat)
  refine ⟨padding, bound, ?_, ?_⟩
  · rw [← length_bitString, pack, carried, List.length_append, List.length_append, List.length_replicate,
      List.length_replicate, length_flatMap_bits]
  · rw [pack, carried, List.append_assoc, List.drop_left' List.length_replicate]

theorem takeSeptets_flatMap_append {septets : Octets} (low : ∀ septet ∈ septets, septet.toNat < 128)
    (count : Nat) (rest : List Bool) :
    takeSeptets (septets.length + count) ((septets.flatMap fun septet => bitsOf 7 septet.toNat) ++ rest) =
      septets ++ takeSeptets count rest := by
  induction septets with
  | nil =>
      rw [List.length_nil, Nat.zero_add]
      rfl
  | cons septet septets ih =>
      have others := ih fun other member => low other (List.mem_cons_of_mem _ member)
      rw [List.flatMap_cons, List.append_assoc, List.length_cons, Nat.add_right_comm,
        takeSeptets_append (length_bitsOf ..), others, ofBits_septet, and_mask (low _ List.mem_cons_self)]
      rfl

theorem packedSeptets_pack {septets : Octets} (low : ∀ septet ∈ septets, septet.toNat < 128) (fill : Nat) :
    DataCoding.packedSeptets (pack septets fill) fill =
      if 8 ∣ fill + 7 * septets.length ∧ septets.getLast? = some 0 then septets.dropLast else septets := by
  obtain ⟨padding, bound, size, carried⟩ := bitString_pack septets fill
  have bits : (pack septets fill).length * 8 - fill = 7 * septets.length + padding := by omega
  unfold DataCoding.packedSeptets
  simp only [bits]
  by_cases spare : padding = 7
  · -- The octets have room for one septet more, which is read as a zero and taken back.
    have count : (7 * septets.length + padding) / 7 = septets.length + 1 := by omega
    have whole : (7 * septets.length + padding) % 7 = 0 := by omega
    have ragged : ¬ 8 ∣ fill + 7 * septets.length := by omega
    have read : unpack (pack septets fill) fill (septets.length + 1) = septets ++ [0] := by
      rw [unpack, carried, takeSeptets_flatMap_append low, spare]
      rfl
    rw [count, read, if_pos ⟨whole, List.getLast?_concat⟩, List.dropLast_concat,
      if_neg fun exact => ragged exact.1]
  · -- The count is right, but a zero that ends an octet is taken back as well.
    have count : (7 * septets.length + padding) / 7 = septets.length + 0 := by omega
    have read : unpack (pack septets fill) fill (septets.length + 0) = septets := by
      rw [unpack, carried, takeSeptets_flatMap_append low]
      exact List.append_nil septets
    have same : (7 * septets.length + padding) % 7 = 0 ↔ 8 ∣ fill + 7 * septets.length := by omega
    rw [count, read]
    simp only [same]

theorem getLast?_septets? {character : Char} {septets : Octets} (found : septets? character = some septets) :
    septets.getLast? = some 0 ↔ character = '@' := by
  rcases septets?_cases found with ⟨index, bound, _, place, rfl⟩ | ⟨code, member, rfl⟩
  · have value : (UInt8.ofNat index).toNat = index := UInt8.toNat_ofNat_of_lt' (Nat.lt_trans bound (by decide))
    rw [List.getLast?_singleton, Option.some.injEq]
    constructor
    · intro zero
      rw [zero] at value
      rw [← value] at place
      exact (Option.some.inj place).symm
    · intro same
      have own : septets? '@' = some [0] := rfl
      rw [same, own] at found
      exact List.head_eq_of_cons_eq (Option.some.inj found).symm
  · have listed : ∀ entry ∈ extensionTable, entry.2 ≠ 0 ∧ entry.1 ≠ '@' := by decide
    obtain ⟨notZero, notAt⟩ := listed _ member
    rw [List.getLast?_cons_cons, List.getLast?_singleton, Option.some.injEq]
    exact ⟨fun zero => absurd zero notZero, fun at_ => absurd at_ notAt⟩

section

variable {characters : List Char}

theorem low_of_flatMap : ∀ septet ∈ characters.flatMap Segment.septets, septet.toNat < 128 := by
  intro septet member
  obtain ⟨character, _, inside⟩ := List.mem_flatMap.mp member
  exact low_of_getD character septet inside

theorem decode_flatMap (representable : ∀ character ∈ characters, (septets? character).isSome = true) :
    decode (characters.flatMap Segment.septets) = String.ofList characters :=
  decode_of_encode? (encode?_ofList representable)

theorem decode_packedSeptets (representable : ∀ character ∈ characters, (septets? character).isSome = true)
    (fill : Nat) :
    decode (DataCoding.packedSeptets (pack (characters.flatMap Segment.septets) fill) fill) =
      String.ofList (legible (fill + 7 * (characters.flatMap Segment.septets).length) characters) := by
  rw [packedSeptets_pack low_of_flatMap, legible]
  rcases characters.eq_nil_or_concat' with rfl | ⟨front, last, rfl⟩
  · rw [if_neg, if_neg]
    · rfl
    · rintro ⟨_, impossible⟩
      cases impossible
    · rintro ⟨_, impossible⟩
      cases impossible
  · have inFront : ∀ character ∈ front, (septets? character).isSome = true :=
      fun character member => representable character (List.mem_append_left _ member)
    obtain ⟨octets, found⟩ := Option.isSome_iff_exists.mp
      (representable last (List.mem_append_right _ List.mem_cons_self))
    have written : Segment.septets last = octets := by rw [Segment.septets, found, Option.getD_some]
    have present : octets ≠ [] := by
      rintro rfl
      rcases length_septets? found with impossible | impossible <;> cases impossible
    have zero : ((front ++ [last]).flatMap Segment.septets).getLast? = some 0 ↔ last = '@' := by
      rw [List.flatMap_append, List.flatMap_singleton, written, List.getLast?_append_of_ne_nil _ present,
        getLast?_septets? found]
    simp only [zero, List.getLast?_concat, Option.some.injEq]
    -- No character but the at sign ends in a zero septet.
    by_cases cut : 8 ∣ fill + 7 * ((front ++ [last]).flatMap Segment.septets).length ∧ last = '@'
    · have sign : octets = [0] := by
        have own : septets? '@' = some [0] := rfl
        rw [cut.2, own] at found
        exact (Option.some.inj found).symm
      rw [if_pos cut, if_pos cut, List.flatMap_append, List.flatMap_singleton, written, sign,
        List.dropLast_concat, List.dropLast_concat, decode_flatMap inFront]
    · rw [if_neg cut, if_neg cut, decode_flatMap representable]

end

end Gsm

namespace ShortMessage

variable {message : ShortMessage} {septets : Octets} {fill : Nat}

/-- The payload is packed septets, or a header whose first octet counts the others and, on the next septet
boundary, packed septets. -/
inductive Packs (message : ShortMessage) (septets : Octets) : Nat → Prop
  | alone (plain : message.esmClass.hasHeader = false) (payload : message.payload = Gsm.pack septets 0) :
      Packs message septets 0
  | behind {header : Octets} {fill : Nat} (flagged : message.esmClass.hasHeader = true)
      (short : header.length < 256) (boundary : 7 ∣ 8 * (header.length + 1) + fill) (next : fill < 7)
      (payload : message.payload = UInt8.ofNat header.length :: (header ++ Gsm.pack septets fill)) :
      Packs message septets fill

theorem payload_of_bare (bare : message.parameters = []) : message.payload = message.octets := by
  rw [payload, bare]
  cases message.octets <;> rfl

theorem userData_of_header {header behind : Octets} (flagged : message.esmClass.hasHeader = true)
    (short : header.length < 256)
    (payload : message.payload = UInt8.ofNat header.length :: (header ++ behind)) :
    message.userData = behind := by
  rw [userData, if_pos flagged, payload]
  dsimp only
  rw [UInt8.toNat_ofNat_of_lt' short, List.drop_left]

theorem userData_of_plain (plain : message.esmClass.hasHeader = false) :
    message.userData = message.payload := by
  rw [userData, plain]
  rfl

theorem Packs.userData_eq (packs : message.Packs septets fill) :
    message.userData = Gsm.pack septets fill := by
  cases packs with
  | alone plain payload => rw [userData_of_plain plain, payload]
  | behind flagged short boundary next payload => exact userData_of_header flagged short payload

theorem Packs.fillBits_eq (packs : message.Packs septets fill) : message.fillBits = fill := by
  cases packs with
  | alone plain payload =>
      rw [fillBits, plain]
      rfl
  | behind flagged short boundary next payload =>
      rw [fillBits, if_pos flagged, payload]
      dsimp only
      rw [UInt8.toNat_ofNat_of_lt' short]
      omega

theorem packedText_of_packs {characters : List Char} (coding : message.dataCoding = .gsm)
    (representable : ∀ character ∈ characters, (Gsm.septets? character).isSome = true)
    (packs : message.Packs (characters.flatMap Segment.septets) fill) :
    message.packedText = String.ofList
      (Gsm.legible (fill + 7 * (characters.flatMap Segment.septets).length) characters) := by
  rw [packedText, packs.userData_eq, packs.fillBits_eq, coding]
  exact Gsm.decode_packedSeptets representable fill

/-- The message has these characters and no others. They are all read when the number of septets is known;
without it an at sign at the end of the last octet is taken for padding. -/
inductive Bears (message : ShortMessage) (run : List Char) : Prop
  | septets {septets : Octets} (coding : message.dataCoding = .gsm)
      (encoded : Gsm.encode? (String.ofList run) = some septets)
      (whole : Gsm.unpack message.userData message.fillBits septets.length = septets)
      (packed : message.packedText =
        String.ofList (Gsm.legible (message.fillBits + 7 * septets.length) run)) : Bears message run
  | codeUnits (coding : message.dataCoding = .ucs2) (whole : message.text = String.ofList run)
      (packed : message.packedText = String.ofList run) : Bears message run

theorem Bears.packedText_eq {run : List Char} (bears : message.Bears run) (plain : '@' ∉ run) :
    message.packedText = String.ofList run := by
  cases bears with
  | codeUnits coding whole packed => exact packed
  | septets coding encoded whole packed =>
      rw [packed, Gsm.legible, if_neg]
      rintro ⟨_, last⟩
      exact plain (List.mem_of_getLast? last)

theorem join_packedText {messages : List ShortMessage} {runs : List (List Char)}
    (bear : List.Forall₂ Bears messages runs) (plain : '@' ∉ runs.flatten) :
    String.join (messages.map packedText) = String.ofList runs.flatten := by
  induction bear with
  | nil => rfl
  | cons first others ih =>
      rw [List.flatten_cons, List.mem_append, not_or] at plain
      rw [List.map_cons, String.join_cons, ih plain.2, first.packedText_eq plain.1, List.flatten_cons,
        String.ofList_append]

end ShortMessage

namespace Segment

variable {layout : Layout} {segment : Segment} {run : List Char}

inductive Lays (layout : Layout) : Segment → List Char → Prop
  | single (run : List Char) : Lays layout (single layout run) run
  | part (header : ConcatHeader) (run : List Char) : Lays layout (part layout header run) run

theorem lays_parts (layout : Layout) (reference total : UInt8) (index : Nat) (runs : List (List Char)) :
    List.Forall₂ (Lays layout) (parts layout reference total index runs) runs := by
  induction runs generalizing index with
  | nil => exact .nil
  | cons run others ih => exact .cons (.part _ run) (ih (index + 1))

theorem Lays.holds (lays : Lays layout segment run) : Holds layout segment run := by
  cases lays with
  | single run => exact holds_single layout run
  | part header run => exact holds_part layout header run

structure IsIn (segment : Segment) (message : ShortMessage) : Prop where
  payload : message.payload = segment.payload
  esmClass : message.esmClass = segment.esmClass
  dataCoding : message.dataCoding = segment.dataCoding

theorem Lays.payload_cases {message : ShortMessage} (lays : Lays layout segment run)
    (inside : segment.IsIn message) :
    (message.esmClass.hasHeader = false ∧ segment.fill = 0 ∧ message.payload = layout.write segment.fill run) ∨
    ∃ header : Octets, message.esmClass.hasHeader = true ∧ segment.fill = 1 ∧ header.length = 5 ∧
      message.payload = UInt8.ofNat header.length :: (header ++ layout.write segment.fill run) := by
  obtain ⟨payload, esmClass, _⟩ := inside
  cases lays with
  | single run =>
      have plain : (Segment.single layout run).esmClass = EsmClass.plain := rfl
      refine Or.inl ⟨?_, rfl, payload⟩
      rw [esmClass, plain]
      decide
  | part header run =>
      have flagged : (Segment.part layout header run).esmClass = EsmClass.plain.withHeader := rfl
      refine Or.inr ⟨[0, 3, header.reference, header.total, header.index], ?_, rfl, rfl, payload⟩
      rw [esmClass, flagged]
      decide

theorem Lays.userData_eq {message : ShortMessage} (lays : Lays layout segment run)
    (inside : segment.IsIn message) : message.userData = layout.write segment.fill run := by
  rcases lays.payload_cases inside with ⟨plain, _, payload⟩ | ⟨header, flagged, _, size, payload⟩
  · rw [ShortMessage.userData_of_plain plain, payload]
  · exact ShortMessage.userData_of_header flagged (by omega) payload

theorem Lays.packs {message : ShortMessage} (lays : Lays gsmLayout segment run) (inside : segment.IsIn message) :
    message.Packs (run.flatMap septets) segment.fill := by
  rcases lays.payload_cases inside with ⟨plain, none, payload⟩ | ⟨header, flagged, one, size, payload⟩
  · rw [none] at payload ⊢
    exact .alone plain payload
  · exact .behind flagged (by omega) (by omega) (by omega) payload

def reading (segment : Segment) (run : List Char) : List Char :=
  if segment.dataCoding = .gsm then Gsm.legible (segment.fill + 7 * segment.units) run else run

theorem Lays.read_ucs2 {message : ShortMessage} (lays : Lays ucs2Layout segment run)
    (inside : segment.IsIn message) :
    message.dataCoding = .ucs2 ∧ message.text = String.ofList run ∧ message.packedText = String.ofList run := by
  have coding : message.dataCoding = .ucs2 := inside.dataCoding.trans lays.holds.coding
  have read : Utf16.decodeLossy message.userData = String.ofList run := by
    rw [lays.userData_eq inside]
    exact Utf16.decodeLossy_encode run
  refine ⟨coding, ?_, ?_⟩
  · rw [ShortMessage.text, coding]
    exact read
  · rw [ShortMessage.packedText, coding]
    exact read

theorem Lays.packedText {message : ShortMessage} (lays : Lays layout segment run) (suits : Suits run layout)
    (inside : segment.IsIn message) : message.packedText = String.ofList (segment.reading run) := by
  obtain ⟨coding, _, counted⟩ := lays.holds
  cases suits with
  | gsm representable =>
      have gsm : segment.dataCoding = .gsm := coding
      rw [ShortMessage.packedText_of_packs (inside.dataCoding.trans gsm) representable (lays.packs inside),
        reading, if_pos gsm, counted, length_flatMap_septets]
  | ucs2 =>
      have ucs2 : segment.dataCoding = .ucs2 := coding
      have other : segment.dataCoding ≠ .gsm := by
        rw [ucs2]
        decide
      rw [reading, if_neg other]
      exact (lays.read_ucs2 inside).2.2

theorem Lays.bears {message : ShortMessage} (lays : Lays layout segment run) (suits : Suits run layout)
    (inside : segment.IsIn message) : message.Bears run := by
  cases suits with
  | gsm representable =>
      have coding : message.dataCoding = .gsm := inside.dataCoding.trans lays.holds.coding
      have packs := lays.packs inside
      refine .septets coding (Gsm.encode?_ofList representable) ?_ ?_
      · rw [packs.userData_eq, packs.fillBits_eq]
        exact Gsm.unpack_pack_of_low Gsm.low_of_flatMap segment.fill
      · exact ShortMessage.packedText_of_packs coding representable (packs.fillBits_eq.symm ▸ packs)
  | ucs2 =>
      obtain ⟨coding, whole, packed⟩ := lays.read_ucs2 inside
      exact .codeUnits coding whole packed

theorem forall₂_suits {segments : List Segment} {runs : List (List Char)}
    (lay : List.Forall₂ (Lays layout) segments runs) (suits : Suits runs.flatten layout) :
    List.Forall₂ (fun segment run => Lays layout segment run ∧ Suits run layout) segments runs := by
  induction lay with
  | nil => exact .nil
  | cons first others ih =>
      rw [List.flatten_cons] at suits
      refine .cons ⟨first, suits.mono ?_⟩ (ih (suits.mono ?_))
      · exact List.subset_append_left _ _
      · exact List.subset_append_right _ _

end Segment

namespace Segmenter

open Segment

theorem layOut_lays {segmenter : Segmenter} {layout : Layout} {characters : List Char} {cut : SegmentedMessage}
    (laidOut : (segmenter.layOut layout characters).1 = .ok cut) :
    ∃ runs, runs.flatten = characters ∧ List.Forall₂ (Lays layout) cut.segments runs := by
  rcases layOut_eq_ok laidOut with ⟨_, alone⟩ | ⟨total, inParts⟩
  · rw [alone]
    exact ⟨[characters], List.append_nil _, .cons (.single characters) .nil⟩
  · rw [inParts]
    exact ⟨_, flatten_runs characters, lays_parts ..⟩

end Segmenter

namespace ShortMessage

/-- A text that is packed behind a header of any length is read as it was, except for an at sign at the end
of the last octet; and so is each part of a message, where text in UCS-2 has no exception. -/
theorem packedText_inverts_packing :
    (∀ text, Gsm.isRepresentable text = true → ∃ septets, Gsm.encode? text = some septets ∧
      ∀ (message : ShortMessage) (fill : Nat), message.dataCoding = .gsm → message.Packs septets fill →
        message.packedText = String.ofList (Gsm.legible (fill + 7 * septets.length) text.toList)) ∧
    ∀ (segmenter : Segmenter) (text : String) (target : TargetEncoding) (cut : SegmentedMessage),
      (segmenter.segment text target).1 = .ok cut →
        ∃ runs : List (List Char), runs.flatten = text.toList ∧
          List.Forall₂ (fun segment run => segment.text = String.ofList run ∧
            ∀ message : ShortMessage, segment.IsIn message →
              message.packedText = String.ofList (segment.reading run)) cut.segments runs := by
  constructor
  · intro text representable
    have each := Gsm.isRepresentable_iff.mp representable
    have encoded := Gsm.encode?_ofList each
    rw [String.ofList_toList] at encoded
    exact ⟨_, encoded, fun message fill coding packs => packedText_of_packs coding each packs⟩
  · intro segmenter text target cut done
    obtain ⟨layout, chosen, laidOut⟩ := Segmenter.chosen_of_segment done
    obtain ⟨runs, whole, lay⟩ := Segmenter.layOut_lays laidOut
    have suits := Segmenter.suits_of_layoutFor chosen
    rw [← whole] at suits
    refine ⟨runs, whole, (Segment.forall₂_suits lay suits).imp ?_⟩
    rintro segment run ⟨lays, own⟩
    exact ⟨(lays.holds.carries own).text_eq, fun message inside => lays.packedText own inside⟩

/-- Three septets fill three octets behind three fill bits, but not behind none. -/
theorem packedText_inverts_packing_sample :
    Gsm.isRepresentable "ab@" = true ∧
    (∃ septets, Gsm.encode? "ab@" = some septets ∧
      packedText { esmClass := EsmClass.plain.withHeader
                   octets := 3 :: ([0x70, 0x01, 0x00] ++ Gsm.pack septets 3) } = "ab") ∧
    ∃ cut segment, ((Segmenter.mk 42).segment "ab@" .gsm).1 = .ok cut ∧ cut.segments = [segment] ∧
      packedText { dataCoding := segment.dataCoding, octets := segment.payload } = "ab@" := by
  obtain ⟨fromPacked, fromSegment⟩ := packedText_inverts_packing
  have representable : Gsm.isRepresentable "ab@" = true := by decide
  refine ⟨representable, ?_, ?_⟩
  · obtain ⟨septets, encoded, read⟩ := fromPacked "ab@" representable
    have three : septets.length = 3 := by
      rw [← Option.some.inj encoded]
      rfl
    have flagged : EsmClass.plain.withHeader.hasHeader = true := by decide
    refine ⟨septets, encoded, (read _ 3 rfl ?_).trans ?_⟩
    · exact @Packs.behind _ septets [0x70, 0x01, 0x00] 3 flagged (by decide) (by decide) (by decide) rfl
    · rw [three]
      decide
  · obtain ⟨runs, whole, each⟩ := fromSegment (Segmenter.mk 42) "ab@" .gsm _ rfl
    refine ⟨_, _, rfl, rfl, ?_⟩
    cases each with
    | cons first others =>
        cases others
        obtain ⟨_, read⟩ := first
        refine (read _ ⟨payload_of_bare rfl, rfl, rfl⟩).trans ?_
        rw [List.flatten_singleton] at whole
        rw [whole]
        decide

end ShortMessage

end Smpp
