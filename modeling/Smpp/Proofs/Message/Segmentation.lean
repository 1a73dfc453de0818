import Smpp.Proofs.Message.Parts

/-!
Messages in parts. The texts of the parts are the text of the message; there are as few parts as whole
characters allow, and each says where it belongs.
-/

namespace Smpp.Segmenter

open Segment

variable {segmenter : Segmenter} {text : String} {target : TargetEncoding} {message : SegmentedMessage}

theorem layOut_single {layout : Layout} {characters : List Char}
    (fits : unitsOf layout characters ≤ layout.singleBudget) :
    (segmenter.layOut layout characters).1 =
      .ok ⟨[single layout characters], layout.dataCoding, .plain⟩ := by
  rw [layOut, if_pos fits]

theorem layOut_parts {layout : Layout} {characters : List Char}
    (long : layout.singleBudget < unitsOf layout characters)
    (few : (runs layout.width layout.partBudget characters).length ≤ 255) :
    (segmenter.layOut layout characters).1 =
      .ok ⟨parts layout segmenter.reference
          (UInt8.ofNat (runs layout.width layout.partBudget characters).length) 1
          (runs layout.width layout.partBudget characters),
        layout.dataCoding, EsmClass.plain.withHeader⟩ := by
  have notMany : ¬mostParts < (runs layout.width layout.partBudget characters).length := Nat.not_lt_of_le few
  rw [layOut, if_neg (Nat.not_le_of_lt long), if_neg notMany]

theorem layOut_tooLong {layout : Layout} {characters : List Char}
    (long : layout.singleBudget < unitsOf layout characters)
    (many : 255 < (runs layout.width layout.partBudget characters).length) :
    (segmenter.layOut layout characters).1 =
      .error (.messageTooLong (runs layout.width layout.partBudget characters).length 255) := by
  have most : mostParts < (runs layout.width layout.partBudget characters).length := many
  rw [layOut, if_neg (Nat.not_le_of_lt long), if_pos most]
  rfl

theorem layOut_eq_ok {layout : Layout} {characters : List Char}
    (laidOut : (segmenter.layOut layout characters).1 = .ok message) :
    (unitsOf layout characters ≤ layout.singleBudget ∧ message.segments = [single layout characters]) ∨
    ∃ total, message.segments =
      parts layout segmenter.reference total 1 (runs layout.width layout.partBudget characters) := by
  by_cases alone : unitsOf layout characters ≤ layout.singleBudget
  · obtain rfl := Except.ok.inj ((layOut_single alone).symm.trans laidOut)
    exact Or.inl ⟨alone, rfl⟩
  · have long := Nat.lt_of_not_le alone
    by_cases few : (runs layout.width layout.partBudget characters).length ≤ 255
    · obtain rfl := Except.ok.inj ((layOut_parts long few).symm.trans laidOut)
      exact Or.inr ⟨_, rfl⟩
    · cases (layOut_tooLong long (Nat.lt_of_not_le few)).symm.trans laidOut

theorem segment_of_layout {layout : Layout} (chosen : layoutFor text target = .ok layout) :
    segmenter.segment text target = segmenter.layOut layout text.toList := by
  rw [segment, chosen]

theorem suits_of_layoutFor {layout : Layout} (chosen : layoutFor text target = .ok layout) :
    Suits text.toList layout := by
  cases target with
  | gsm =>
      rw [layoutFor] at chosen
      split at chosen
      · cases chosen
      · rename_i all
        obtain rfl := Except.ok.inj chosen
        exact .gsm (Gsm.isRepresentable_iff.mp (Gsm.firstUnrepresentable?_eq_none.mp all))
  | ucs2 =>
      obtain rfl := Except.ok.inj chosen
      exact .ucs2
  | auto =>
      obtain rfl := Except.ok.inj chosen
      by_cases representable : Gsm.isRepresentable text = true
      · rw [if_pos representable]
        exact .gsm (Gsm.isRepresentable_iff.mp representable)
      · rw [if_neg representable]
        exact .ucs2

theorem chosen_of_segment (cut : (segmenter.segment text target).1 = .ok message) :
    ∃ layout, layoutFor text target = .ok layout ∧
      (segmenter.layOut layout text.toList).1 = .ok message := by
  rw [segment] at cut
  split at cut
  · cases cut
  · rename_i layout chosen
    exact ⟨layout, chosen, cut⟩

theorem layOut_holds {layout : Layout} {characters : List Char}
    (cut : (segmenter.layOut layout characters).1 = .ok message) :
    ∃ runs, runs.flatten = characters ∧ List.Forall₂ (Holds layout) message.segments runs := by
  rcases layOut_eq_ok cut with ⟨_, alone⟩ | ⟨total, inParts⟩
  · rw [alone]
    exact ⟨[characters], List.append_nil _, .cons (holds_single layout characters) .nil⟩
  · rw [inParts]
    exact ⟨_, flatten_runs characters, holds_parts ..⟩

theorem units_of_suits {layout : Layout} (suits : Suits text.toList layout) :
    (layout.dataCoding = .gsm ∧ Gsm.septetCount? text = some (unitsOf layout text.toList)) ∨
    (layout.dataCoding = .ucs2 ∧ (text.toList.flatMap Utf16.unitsOf).length = unitsOf layout text.toList) := by
  cases suits with
  | gsm representable =>
      have counted := Gsm.septetCount?_ofList representable
      rw [String.ofList_toList] at counted
      exact Or.inl ⟨rfl, counted⟩
  | ucs2 => exact Or.inr ⟨rfl, length_flatMap_unitsOf text.toList⟩

/-- The parts of a message carry runs of the text, in its order and with nothing between them, and
each run is read from its part alone. -/
theorem parts_read_back (cut : (segmenter.segment text target).1 = .ok message) :
    (∃ runs : List (List Char), runs.flatten = text.toList ∧
      List.Forall₂ (fun part run => part.Carries run ∧ part.text = String.ofList run)
        message.segments runs) ∧
    String.join (message.segments.map Segment.text) = text ∧
    (((∀ part ∈ message.segments, part.dataCoding = .gsm) ∧
        Gsm.septetCount? text = some (message.segments.map Segment.units).sum) ∨
      ((∀ part ∈ message.segments, part.dataCoding = .ucs2) ∧
        (text.toList.flatMap Utf16.unitsOf).length = (message.segments.map Segment.units).sum)) := by
  obtain ⟨layout, chosen, laidOut⟩ := chosen_of_segment cut
  obtain ⟨runs, whole, hold⟩ := layOut_holds laidOut
  have suits := suits_of_layoutFor chosen
  rw [← whole] at suits
  have carry := forall₂_carries hold suits
  have codings := coding_of_hold hold
  refine ⟨⟨runs, whole, carry.imp fun part run carries => ⟨carries, carries.text_eq⟩⟩, ?_, ?_⟩
  · rw [join_texts carry, whole, String.ofList_toList]
  · rw [sum_units hold, whole]
    rw [whole] at suits
    rcases units_of_suits suits with ⟨coding, counted⟩ | ⟨coding, counted⟩
    · rw [coding] at codings
      exact Or.inl ⟨codings, counted⟩
    · rw [coding] at codings
      exact Or.inr ⟨codings, counted⟩

/-- A text whose surrogate pair does not fit behind the first 66 characters. -/
def borderText : String := String.ofList (List.replicate 66 'a' ++ '😀' :: List.replicate 10 'b')

theorem parts_read_back_sample :
    ∃ message, ((Segmenter.mk 42).segment borderText .ucs2).1 = .ok message ∧
      message.segments.map Segment.units = [66, 12] ∧
      String.join (message.segments.map Segment.text) = borderText := by
  have units : ((Segmenter.mk 42).segment borderText .ucs2).1.toOption.map
      (fun message => message.segments.map Segment.units) = some [66, 12] := by decide +kernel
  cases cut : ((Segmenter.mk 42).segment borderText .ucs2).1 with
  | error error =>
      rw [cut] at units
      cases units
  | ok message =>
      rw [cut] at units
      exact ⟨message, rfl, Option.some.inj units, (parts_read_back cut).2.1⟩

structure LaidOut (width : Char → Nat) (singleBudget partBudget : Nat) (reference : UInt8)
    (characters : List Char) (answer : Except CodecError SegmentedMessage) : Prop where
  alone : (characters.map width).sum ≤ singleBudget → ∃ message segment,
    answer = .ok message ∧ message.segments = [segment] ∧ message.esmClass.hasHeader = false ∧
      segment.header = none ∧ segment.esmClass.hasHeader = false
  inParts : singleBudget < (characters.map width).sum →
    ∃ count, IsLeast {count | CutsInto width partBudget characters count} count ∧
      (count ≤ 255 → ∃ message, answer = .ok message ∧ message.segments.length = count ∧
        message.esmClass.hasHeader = true ∧
        ∀ (place : Nat) (inside : place < message.segments.length),
          IsPart reference count (place + 1) message.segments[place]) ∧
      (255 < count → answer = .error (.messageTooLong count 255)) ∧
      ((∀ character ∈ characters, width character ≠ 2) →
        count = ((characters.map width).sum + partBudget - 1) / partBudget)
  payloads : ∀ message, answer = .ok message → ∀ segment ∈ message.segments, segment.payload.length ≤ 140

theorem length_runs_of_sized {layout : Layout} (sized : layout.Sized) {characters : List Char}
    (notZero : ∀ character ∈ characters, layout.width character ≠ 0)
    (notTwo : ∀ character ∈ characters, layout.width character ≠ 2) :
    (runs layout.width layout.partBudget characters).length =
      ((characters.map layout.width).sum + layout.partBudget - 1) / layout.partBudget := by
  have unit : ∀ character ∈ characters, layout.width character = 1 := by
    intro character member
    have zero := notZero character member
    have two := notTwo character member
    have most := sized.narrow character
    omega
  have positive : 0 < layout.partBudget := Nat.lt_of_lt_of_le (by decide) sized.room
  have total : (characters.map layout.width).sum = characters.length := by
    rw [List.map_congr_left unit, List.map_const', List.sum_replicate_nat, Nat.mul_one]
  rw [length_runs_of_unit positive unit, total]

theorem payloads_of_sized {layout : Layout} (sized : layout.Sized) {characters : List Char}
    (laidOut : (segmenter.layOut layout characters).1 = .ok message) :
    ∀ segment ∈ message.segments, segment.payload.length ≤ 140 := by
  intro segment member
  rcases layOut_eq_ok laidOut with ⟨fits, alone⟩ | ⟨total, inParts⟩
  · rw [alone] at member
    obtain rfl := List.mem_singleton.mp member
    exact sized.single characters fits
  · rw [inParts] at member
    obtain ⟨header, run, inside, rfl⟩ := mem_parts member
    have text := sized.part run (runs_fit sized.fits characters run inside)
    have headed : header.toOctets.length = 6 := rfl
    rw [part, List.length_append]
    omega

theorem sized_of_suits {layout : Layout} {characters : List Char} (suits : Suits characters layout) :
    layout.Sized ∧ layout.partBudget ≤ layout.singleBudget ∧
      ∀ character ∈ characters, layout.width character ≠ 0 := by
  cases suits with
  | gsm representable =>
      refine ⟨gsm_sized, by decide, fun character member => ?_⟩
      obtain ⟨octets, found⟩ := Option.isSome_iff_exists.mp (representable character member)
      have width : gsmLayout.width character = octets.length := by
        change ((Gsm.septets? character).getD []).length = octets.length
        rw [found, Option.getD_some]
      have lengths := Gsm.length_septets? found
      omega
  | ucs2 =>
      refine ⟨ucs2_sized, by decide, fun character _ => ?_⟩
      have width : ucs2Layout.width character = (Utf16.unitsOf character).length := rfl
      have lengths := Utf16.length_unitsOf character
      omega

theorem laidOut_of_sized {layout : Layout} (sized : layout.Sized) {characters : List Char}
    (notZero : ∀ character ∈ characters, layout.width character ≠ 0) (segmenter : Segmenter) :
    LaidOut layout.width layout.singleBudget layout.partBudget segmenter.reference characters
      (segmenter.layOut layout characters).1 where
  alone := by
    intro fits
    have plain : EsmClass.plain.hasHeader = false := by decide
    exact ⟨_, _, layOut_single fits, rfl, plain, rfl, plain⟩
  inParts := by
    intro long
    have least := isLeast_length_runs sized.fits characters
    refine ⟨_, least, fun few => ?_, fun many => layOut_tooLong long many, length_runs_of_sized sized notZero⟩
    have flagged : EsmClass.plain.withHeader.hasHeader = true := by decide
    refine ⟨_, layOut_parts long few, length_parts .., flagged, fun place inside => ?_⟩
    have placed := inside
    rw [length_parts] at placed
    have found := getElem?_parts layout segmenter.reference
      (UInt8.ofNat (runs layout.width layout.partBudget characters).length) placed 1
    rw [List.getElem?_eq_getElem inside, Nat.add_comm 1] at found
    rw [Option.some.inj found]
    exact isPart_part layout segmenter.reference few placed _
  payloads message laidOut := payloads_of_sized sized laidOut

theorem segments_cases {layout : Layout} {characters : List Char} {cut : SegmentedMessage}
    (suits : Suits characters layout) (laidOut : (segmenter.layOut layout characters).1 = .ok cut) :
    (∃ segment, cut.segments = [segment] ∧ segment.esmClass.hasHeader = false) ∨
    1 < cut.segments.length ∧ ∀ (place : Nat) (inside : place < cut.segments.length),
      IsPart segmenter.reference cut.segments.length (place + 1) cut.segments[place] := by
  obtain ⟨sized, budgets, notZero⟩ := sized_of_suits suits
  have answer := laidOut_of_sized sized notZero segmenter
  by_cases alone : (characters.map layout.width).sum ≤ layout.singleBudget
  · obtain ⟨message, segment, same, only, _, _, plain⟩ := answer.alone alone
    cases laidOut.symm.trans same
    exact Or.inl ⟨segment, only, plain⟩
  · have long := Nat.lt_of_not_le alone
    obtain ⟨count, least, few, many, _⟩ := answer.inParts long
    by_cases fits : count ≤ 255
    · obtain ⟨message, same, counted, _, parts⟩ := few fits
      cases laidOut.symm.trans same
      refine Or.inr ⟨?_, fun place inside => counted ▸ parts place inside⟩
      by_contra single
      have short := sum_le_of_cutsInto least.1 (by omega)
      omega
    · cases laidOut.symm.trans (many (Nat.lt_of_not_le fits))

def IsTooLong (text : String) : Prop :=
  ∃ layout, layoutFor text .auto = .ok layout ∧ layout.singleBudget < unitsOf layout text.toList ∧
    ∀ count, CutsInto layout.width layout.partBudget text.toList count → 255 < count

theorem segment_of_tooLong (segmenter : Segmenter) {text : String} (tooLong : IsTooLong text) :
    ∃ error, segmenter.segment text .auto = (.error error, segmenter) := by
  obtain ⟨layout, chosen, long, many⟩ := tooLong
  obtain ⟨sized, _⟩ := sized_of_suits (suits_of_layoutFor chosen)
  have most : mostParts < (runs layout.width layout.partBudget text.toList).length :=
    many _ (isLeast_length_runs sized.fits text.toList).1
  rw [segment_of_layout chosen, layOut, if_neg (Nat.not_le_of_lt long), if_pos most]
  exact ⟨_, rfl⟩

theorem layOut_eq_error {layout : Layout} {characters : List Char} {error : CodecError}
    (failed : (segmenter.layOut layout characters).1 = .error error) :
    ∃ count, 255 < count ∧ error = .messageTooLong count 255 := by
  by_cases alone : unitsOf layout characters ≤ layout.singleBudget
  · cases (layOut_single alone).symm.trans failed
  · have long := Nat.lt_of_not_le alone
    by_cases few : (runs layout.width layout.partBudget characters).length ≤ 255
    · cases (layOut_parts long few).symm.trans failed
    · have many := Nat.lt_of_not_le few
      have same := Except.error.inj ((layOut_tooLong long many).symm.trans failed)
      exact ⟨_, many, same.symm⟩

theorem segment_eq_unencodable {character : Char} :
    (segmenter.segment text .gsm).1 = .error (.unencodable character) ↔
      Gsm.FirstUnrepresentable text character := by
  rw [← Gsm.firstUnrepresentable?_eq_some]
  cases found : Gsm.firstUnrepresentable? text with
  | none =>
      have chosen : layoutFor text .gsm = .ok gsmLayout := by rw [layoutFor, found]
      rw [segment_of_layout chosen]
      constructor
      · intro failed
        obtain ⟨count, _, same⟩ := layOut_eq_error failed
        cases same
      · intro first
        cases first
  | some first =>
      have refused : layoutFor text .gsm = .error (.unencodable first) := by rw [layoutFor, found]
      rw [segment, refused]
      constructor
      · intro failed
        cases failed
        rfl
      · intro same
        cases same
        rfl

theorem segment_eq_error {error : CodecError} (failed : (segmenter.segment text target).1 = .error error) :
    (target = .gsm ∧ ∃ character, error = .unencodable character) ∨
    ∃ count, 255 < count ∧ error = .messageTooLong count 255 := by
  rw [segment] at failed
  split at failed
  · rename_i refused
    obtain rfl := Except.error.inj failed
    cases target with
    | gsm =>
        rw [layoutFor] at refused
        split at refused
        · exact Or.inl ⟨rfl, _, (Except.error.inj refused).symm⟩
        · cases refused
    | ucs2 => cases refused
    | auto => cases refused
  · exact Or.inr (layOut_eq_error failed)

theorem layoutFor_gsm (representable : Gsm.isRepresentable text = true) :
    layoutFor text .gsm = .ok gsmLayout := by
  rw [layoutFor, Gsm.firstUnrepresentable?_eq_none.mpr representable]

theorem segment_unrepresentable (other : Gsm.isRepresentable text = false) :
    ∃ character, (segmenter.segment text .gsm).1 = .error (.unencodable character) := by
  cases found : Gsm.firstUnrepresentable? text with
  | none =>
      rw [Gsm.firstUnrepresentable?_eq_none.mp found] at other
      cases other
  | some first => exact ⟨first, segment_eq_unencodable.mpr (Gsm.firstUnrepresentable?_eq_some.mp found)⟩

theorem segment_auto (segmenter : Segmenter) (text : String) :
    segmenter.segment text .auto =
      segmenter.segment text (if Gsm.isRepresentable text = true then .gsm else .ucs2) := by
  split
  · rename_i representable
    have chosen : layoutFor text .auto = .ok gsmLayout := by rw [layoutFor, if_pos representable]
    rw [segment_of_layout chosen, segment_of_layout (layoutFor_gsm representable)]
  · rename_i other
    have chosen : layoutFor text .auto = .ok ucs2Layout := by rw [layoutFor, if_neg other]
    have same : layoutFor text .ucs2 = .ok ucs2Layout := rfl
    rw [segment_of_layout chosen, segment_of_layout same]

/-- How many parts a text takes, what is in front of them, and which texts cannot be sent. -/
theorem segment_lays_out (segmenter : Segmenter) (text : String) :
    (Gsm.isRepresentable text = true →
      LaidOut gsmLayout.width 160 153 segmenter.reference text.toList (segmenter.segment text .gsm).1) ∧
    LaidOut ucs2Layout.width 70 67 segmenter.reference text.toList (segmenter.segment text .ucs2).1 ∧
    segmenter.segment text .auto =
      segmenter.segment text (if Gsm.isRepresentable text = true then .gsm else .ucs2) ∧
    (Gsm.isRepresentable text = false →
      ∃ character, (segmenter.segment text .gsm).1 = .error (.unencodable character)) ∧
    (∀ character, (segmenter.segment text .gsm).1 = .error (.unencodable character) ↔
      Gsm.FirstUnrepresentable text character) ∧
    ∀ target error, (segmenter.segment text target).1 = .error error →
      (target = .gsm ∧ ∃ character, error = .unencodable character) ∨
      ∃ count, 255 < count ∧ error = .messageTooLong count 255 := by
  refine ⟨fun representable => ?_, ?_, segment_auto segmenter text, segment_unrepresentable,
    fun _ => segment_eq_unencodable, fun _ _ => segment_eq_error⟩
  · have suits : Suits text.toList gsmLayout := .gsm (Gsm.isRepresentable_iff.mp representable)
    rw [segment_of_layout (layoutFor_gsm representable)]
    exact laidOut_of_sized gsm_sized (sized_of_suits suits).2.2 segmenter
  · have chosen : layoutFor text .ucs2 = .ok ucs2Layout := rfl
    have suits : Suits text.toList ucs2Layout := .ucs2
    rw [segment_of_layout chosen]
    exact laidOut_of_sized ucs2_sized (sized_of_suits suits).2.2 segmenter

/-- Its 134 units would fill two parts, but the surrogate pair does not fit behind the first 66 characters. -/
def crowdedText : String := String.ofList (List.replicate 66 'a' ++ '😀' :: List.replicate 66 'b')

theorem segment_lays_out_sample :
    (Gsm.isRepresentable "1€ for 2" = true ∧
      ∃ message segment, ((Segmenter.mk 42).segment "1€ for 2" .gsm).1 = .ok message ∧
        message.segments = [segment] ∧ segment.header = none) ∧
    IsLeast {count | CutsInto ucs2Layout.width 67 crowdedText.toList count} 3 ∧
    ∃ message, ((Segmenter.mk 42).segment crowdedText .ucs2).1 = .ok message ∧
      message.segments.length = 3 ∧ message.esmClass.hasHeader = true ∧
      ∀ (place : Nat) (inside : place < message.segments.length),
        IsPart 42 3 (place + 1) message.segments[place] := by
  have representable : Gsm.isRepresentable "1€ for 2" = true := by decide
  obtain ⟨short, _⟩ := segment_lays_out (Segmenter.mk 42) "1€ for 2"
  obtain ⟨alone, segment, single, only, _, headless, _⟩ := (short representable).alone (by decide)
  refine ⟨⟨representable, alone, segment, single, only, headless⟩, ?_⟩
  have long : 70 < (crowdedText.toList.map ucs2Layout.width).sum := by decide +kernel
  have three : ((Segmenter.mk 42).segment crowdedText .ucs2).1.toOption.map
      (fun message => message.segments.length) = some 3 := by decide +kernel
  obtain ⟨_, laidOut, _⟩ := segment_lays_out (Segmenter.mk 42) crowdedText
  obtain ⟨count, least, few, many, _⟩ := laidOut.inParts long
  rcases Nat.lt_or_ge 255 count with most | enough
  · rw [many most] at three
    cases three
  · obtain ⟨message, answer, length, headed, places⟩ := few enough
    rw [answer] at three
    obtain rfl : count = 3 := length.symm.trans (Option.some.inj three)
    exact ⟨least, message, answer, length, headed, places⟩

end Smpp.Segmenter
