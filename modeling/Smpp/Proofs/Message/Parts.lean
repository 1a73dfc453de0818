import Mathlib.Data.List.Forall2
import Smpp.Proofs.Gsm.Septets
import Smpp.Proofs.Message.Runs
import Smpp.Proofs.Text.Utf16

/-!
Parts of a message. A part is read without the others, from its own octets and its count of units,
and it keeps within the size of a short message.
-/

namespace Smpp

theorem ConcatHeader.ofOctets?_of_prefix {header : ConcatHeader} {octets : Octets}
    (starts : header.toOctets <+: octets) : ofOctets? octets = some header := by
  obtain ⟨behind, rfl⟩ := starts
  rfl

namespace Segment

def body (segment : Segment) : Octets :=
  if segment.isConcatenated then segment.payload.drop 6 else segment.payload

def fill (segment : Segment) : Nat := if segment.isConcatenated then 1 else 0

def unpacked (segment : Segment) : Octets := Gsm.unpack segment.body segment.fill segment.units

def text (segment : Segment) : String :=
  if segment.dataCoding = .gsm then Gsm.decode segment.unpacked
  else Utf16.decodeLossy (segment.body.take (2 * segment.units))

/-- The part has the septets or the code units of these characters, all of them and no others. -/
inductive Carries (segment : Segment) (characters : List Char) : Prop
  | septets (coding : segment.dataCoding = .gsm)
      (whole : Gsm.encode? (String.ofList characters) = some segment.unpacked)
      (count : segment.unpacked.length = segment.units)
  | codeUnits (coding : segment.dataCoding = .ucs2)
      (whole : Utf16.decodeUnits segment.body = characters.flatMap Utf16.unitsOf)
      (count : segment.body.length = 2 * segment.units)

theorem Carries.text_eq {segment : Segment} {characters : List Char} (carries : segment.Carries characters) :
    segment.text = String.ofList characters := by
  rw [text]
  cases carries with
  | septets coding whole count => rw [if_pos coding, Gsm.decode_of_encode? whole]
  | codeUnits coding whole count =>
      have other : segment.dataCoding ≠ .gsm := by
        rw [coding]
        decide
      rw [if_neg other, ← count, List.take_length, Utf16.decodeLossy_of_units whole]

structure Holds (layout : Layout) (segment : Segment) (run : List Char) : Prop where
  coding : segment.dataCoding = layout.dataCoding
  written : segment.body = layout.write segment.fill run
  counted : segment.units = unitsOf layout run

theorem holds_single (layout : Layout) (characters : List Char) :
    Holds layout (single layout characters) characters := ⟨rfl, rfl, rfl⟩

theorem holds_part (layout : Layout) (header : ConcatHeader) (run : List Char) :
    Holds layout (part layout header run) run := ⟨rfl, rfl, rfl⟩

theorem holds_parts (layout : Layout) (reference total : UInt8) (index : Nat) (runs : List (List Char)) :
    List.Forall₂ (Holds layout) (parts layout reference total index runs) runs := by
  induction runs generalizing index with
  | nil => exact .nil
  | cons run others ih => exact .cons (holds_part ..) (ih (index + 1))

inductive Suits (characters : List Char) : Layout → Prop
  | gsm (representable : ∀ character ∈ characters, (Gsm.septets? character).isSome = true) :
      Suits characters gsmLayout
  | ucs2 : Suits characters ucs2Layout

theorem Suits.mono {characters run : List Char} {layout : Layout} (suits : Suits characters layout)
    (inside : run ⊆ characters) : Suits run layout := by
  cases suits with
  | gsm representable => exact .gsm fun character member => representable character (inside member)
  | ucs2 => exact .ucs2

theorem length_flatMap_septets (run : List Char) : (run.flatMap septets).length = unitsOf gsmLayout run :=
  List.length_flatMap

theorem length_flatMap_unitsOf (run : List Char) :
    (run.flatMap Utf16.unitsOf).length = unitsOf ucs2Layout run := List.length_flatMap

theorem unpack_gsm (run : List Char) (fill : Nat) :
    Gsm.unpack (gsmLayout.write fill run) fill (unitsOf gsmLayout run) = run.flatMap septets := by
  rw [← length_flatMap_septets]
  refine Gsm.unpack_pack_of_low ?_ fill
  intro septet member
  obtain ⟨character, _, inside⟩ := List.mem_flatMap.mp member
  exact Gsm.low_of_getD character septet inside

theorem Holds.carries {layout : Layout} {segment : Segment} {run : List Char} (holds : Holds layout segment run)
    (suits : Suits run layout) : segment.Carries run := by
  obtain ⟨coding, written, counted⟩ := holds
  cases suits with
  | gsm representable =>
      have unpacked : segment.unpacked = run.flatMap septets := by
        rw [Segment.unpacked, written, counted, unpack_gsm]
      refine .septets coding ?_ ?_
      · rw [unpacked]
        exact Gsm.encode?_ofList representable
      · rw [unpacked, length_flatMap_septets, counted]
  | ucs2 =>
      have units : segment.body = Utf16.encodeUnits (run.flatMap Utf16.unitsOf) :=
        written.trans (Utf16.encodeUnits_flatMap run).symm
      refine .codeUnits coding ?_ ?_
      · rw [units, Utf16.decodeUnits_encodeUnits]
      · rw [units, Utf16.length_encodeUnits, length_flatMap_unitsOf, counted]

theorem forall₂_carries {layout : Layout} {segments : List Segment} {runs : List (List Char)}
    (hold : List.Forall₂ (Holds layout) segments runs) (suits : Suits runs.flatten layout) :
    List.Forall₂ Carries segments runs := by
  induction hold with
  | nil => exact .nil
  | cons first others ih =>
      rw [List.flatten_cons] at suits
      refine .cons (first.carries (suits.mono ?_)) (ih (suits.mono ?_))
      · exact List.subset_append_left _ _
      · exact List.subset_append_right _ _

theorem coding_of_hold {layout : Layout} {segments : List Segment} {runs : List (List Char)}
    (hold : List.Forall₂ (Holds layout) segments runs) :
    ∀ segment ∈ segments, segment.dataCoding = layout.dataCoding := by
  induction hold with
  | nil =>
      intro segment member
      cases member
  | cons first others ih =>
      intro segment member
      rcases List.mem_cons.mp member with rfl | later
      · exact first.coding
      · exact ih segment later

theorem sum_units {layout : Layout} {segments : List Segment} {runs : List (List Char)}
    (hold : List.Forall₂ (Holds layout) segments runs) :
    (segments.map units).sum = unitsOf layout runs.flatten := by
  induction hold with
  | nil => rfl
  | cons first others ih =>
      rw [List.map_cons, List.sum_cons, ih, first.counted, List.flatten_cons]
      exact (List.sum_append.symm.trans (by rw [← List.map_append]; rfl))

theorem join_texts {segments : List Segment} {runs : List (List Char)}
    (carry : List.Forall₂ Carries segments runs) :
    String.join (segments.map text) = String.ofList runs.flatten := by
  induction carry with
  | nil => rfl
  | cons first others ih =>
      rw [List.map_cons, String.join_cons, ih, first.text_eq, List.flatten_cons, String.ofList_append]

structure IsPart (reference : UInt8) (total index : Nat) (segment : Segment) : Prop where
  headed : ∃ header, segment.header = some header ∧ header.reference = reference ∧
    header.total.toNat = total ∧ header.index.toNat = index ∧ header.toOctets <+: segment.payload
  flagged : segment.esmClass.hasHeader = true

theorem isPart_part (layout : Layout) (reference : UInt8) {total index : Nat} (counted : total ≤ 255)
    (place : index ≤ total) (run : List Char) :
    IsPart reference total index (part layout ⟨reference, UInt8.ofNat total, UInt8.ofNat index⟩ run) where
  headed := by
    have totalFits : total < 2 ^ 8 := by omega
    have indexFits : index < 2 ^ 8 := by omega
    exact ⟨_, rfl, rfl, UInt8.toNat_ofNat_of_lt' totalFits, UInt8.toNat_ofNat_of_lt' indexFits,
      List.prefix_append ..⟩
  flagged := by
    have concatenated : (part layout ⟨reference, UInt8.ofNat total, UInt8.ofNat index⟩ run).esmClass =
        EsmClass.plain.withHeader := rfl
    rw [concatenated]
    decide

theorem length_parts (layout : Layout) (reference total : UInt8) (index : Nat) (runs : List (List Char)) :
    (parts layout reference total index runs).length = runs.length := by
  induction runs generalizing index with
  | nil => rfl
  | cons run others ih => rw [parts, List.length_cons, List.length_cons, ih]

theorem getElem?_parts (layout : Layout) (reference total : UInt8) {runs : List (List Char)} {place : Nat}
    (inside : place < runs.length) (first : Nat) :
    (parts layout reference total first runs)[place]? =
      some (part layout ⟨reference, total, UInt8.ofNat (first + place)⟩ runs[place]) := by
  induction runs generalizing first place with
  | nil => cases inside
  | cons run others ih =>
      cases place with
      | zero => rfl
      | succ place =>
          rw [List.length_cons] at inside
          rw [parts, List.getElem?_cons_succ, ih (by omega), Nat.add_right_comm]
          rfl

theorem mem_parts {layout : Layout} {reference total : UInt8} {first : Nat} {runs : List (List Char)}
    {segment : Segment} (member : segment ∈ parts layout reference total first runs) :
    ∃ header, ∃ run ∈ runs, segment = part layout header run := by
  induction runs generalizing first with
  | nil => cases member
  | cons run others ih =>
      rcases List.mem_cons.mp member with rfl | later
      · exact ⟨_, run, List.mem_cons_self, rfl⟩
      · obtain ⟨header, other, inside, same⟩ := ih later
        exact ⟨header, other, List.mem_cons_of_mem _ inside, same⟩

/-- The budgets of a layout leave room for every character and keep a payload within 140 octets. -/
structure Layout.Sized (layout : Layout) : Prop where
  narrow : ∀ character, layout.width character ≤ 2
  room : 2 ≤ layout.partBudget
  single : ∀ characters, unitsOf layout characters ≤ layout.singleBudget →
    (layout.write 0 characters).length ≤ 140
  part : ∀ characters, unitsOf layout characters ≤ layout.partBudget →
    (layout.write partFill characters).length ≤ 134

theorem Layout.Sized.fits {layout : Layout} (sized : layout.Sized) (character : Char) :
    layout.width character ≤ layout.partBudget := Nat.le_trans (sized.narrow character) sized.room

theorem length_write_gsm (fill : Nat) (characters : List Char) :
    (gsmLayout.write fill characters).length = (fill + 7 * unitsOf gsmLayout characters + 7) / 8 := by
  rw [← length_flatMap_septets]
  exact Gsm.length_pack ..

theorem length_write_ucs2 (fill : Nat) (characters : List Char) :
    (ucs2Layout.write fill characters).length = 2 * unitsOf ucs2Layout characters := by
  rw [← length_flatMap_unitsOf, ← Utf16.length_encodeUnits, Utf16.encodeUnits_flatMap]
  rfl

theorem length_septets_le (character : Char) : (septets character).length ≤ 2 := by
  rw [septets]
  cases found : Gsm.septets? character with
  | none => exact Nat.zero_le 2
  | some octets =>
      rcases Gsm.length_septets? found with one | two
      · rw [Option.getD_some, one]
        decide
      · exact Nat.le_of_eq two

theorem gsm_sized : gsmLayout.Sized where
  narrow := length_septets_le
  room := by decide
  single characters fits := by
    have budget : gsmLayout.singleBudget = 160 := rfl
    rw [length_write_gsm]
    omega
  part characters fits := by
    have budget : gsmLayout.partBudget = 153 := rfl
    rw [length_write_gsm, partFill]
    omega

theorem ucs2_sized : ucs2Layout.Sized where
  narrow character := by
    have widths := Utf16.length_unitsOf character
    have same : ucs2Layout.width character = (Utf16.unitsOf character).length := rfl
    omega
  room := by decide
  single characters fits := by
    have budget : ucs2Layout.singleBudget = 70 := rfl
    rw [length_write_ucs2]
    omega
  part characters fits := by
    have budget : ucs2Layout.partBudget = 67 := rfl
    rw [length_write_ucs2]
    omega

end Segment

end Smpp
