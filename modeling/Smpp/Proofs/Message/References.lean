import Smpp.Proofs.Message.Segmentation

/-!
The references of messages in parts. A segmenter hands them out in their order, one to each message in
parts and none to any other call, so that a reference comes back only after all the others.
-/

namespace Smpp

def SegmentedMessage.isInParts (message : SegmentedMessage) : Bool := message.segments.any Segment.isConcatenated

namespace Segmenter

open Segment

variable {segmenter next : Segmenter} {answer : Except CodecError SegmentedMessage}
  {calls : List (String × TargetEncoding)}

/-- What a call can answer, and the segmenter that it leaves. Only a message in parts uses a reference up,
and it has that one on all its parts. -/
inductive Takes (segmenter : Segmenter) : Except CodecError SegmentedMessage → Segmenter → Prop
  | alone {message : SegmentedMessage} {segment : Segment} (only : message.segments = [segment])
      (headless : segment.header = none) : Takes segmenter (.ok message) segmenter
  | several {message : SegmentedMessage} (present : message.segments ≠ [])
      (headed : ∀ segment ∈ message.segments,
        ∃ header, segment.header = some header ∧ header.reference = segmenter.reference) :
      Takes segmenter (.ok message) ⟨segmenter.reference + 1⟩
  | unencodable (character : Char) : Takes segmenter (.error (.unencodable character)) segmenter
  | tooLong (count : Nat) (many : 255 < count) :
      Takes segmenter (.error (.messageTooLong count 255)) segmenter

theorem reference_of_mem_parts {layout : Layout} {reference total : UInt8} {first : Nat}
    {runs : List (List Char)} {segment : Segment} (member : segment ∈ parts layout reference total first runs) :
    ∃ header, segment.header = some header ∧ header.reference = reference := by
  induction runs generalizing first with
  | nil => cases member
  | cons run others ih =>
      rcases List.mem_cons.mp member with rfl | later
      · exact ⟨_, rfl, rfl⟩
      · exact ih later

theorem runs_ne_nil {layout : Layout} {characters : List Char}
    (long : layout.singleBudget < unitsOf layout characters) :
    runs layout.width layout.partBudget characters ≠ [] := by
  cases characters with
  | nil =>
      have empty : unitsOf layout [] = 0 := rfl
      omega
  | cons character rest =>
      rw [runs]
      simp

theorem takes_layOut (segmenter : Segmenter) (layout : Layout) (characters : List Char) :
    segmenter.Takes (segmenter.layOut layout characters).1 (segmenter.layOut layout characters).2 := by
  by_cases fits : unitsOf layout characters ≤ layout.singleBudget
  · rw [layOut, if_pos fits]
    exact .alone rfl rfl
  · have long := Nat.lt_of_not_le fits
    by_cases many : mostParts < (runs layout.width layout.partBudget characters).length
    · simp only [layOut, if_neg fits, if_pos many]
      exact .tooLong _ many
    · simp only [layOut, if_neg fits, if_neg many]
      refine .several ?_ fun segment member => reference_of_mem_parts member
      intro empty
      have none : (parts layout segmenter.reference
          (UInt8.ofNat (runs layout.width layout.partBudget characters).length) 1
          (runs layout.width layout.partBudget characters)).length = 0 := congrArg List.length empty
      rw [length_parts] at none
      exact runs_ne_nil long (List.eq_nil_of_length_eq_zero none)

theorem takes_segment (segmenter : Segmenter) (text : String) (target : TargetEncoding) :
    segmenter.Takes (segmenter.segment text target).1 (segmenter.segment text target).2 := by
  cases chosen : layoutFor text target with
  | ok layout =>
      rw [segment_of_layout chosen]
      exact segmenter.takes_layOut layout text.toList
  | error error =>
      have refused : segmenter.segment text target = (.error error, segmenter) := by rw [segment, chosen]
      have failed : (segmenter.segment text target).1 = .error error := congrArg Prod.fst refused
      rcases segment_eq_error failed with ⟨_, character, rfl⟩ | ⟨count, many, rfl⟩
      · rw [refused]
        exact .unencodable character
      · rw [refused]
        exact .tooLong count many

def answers (segmenter : Segmenter) : List (String × TargetEncoding) → List (Except CodecError SegmentedMessage)
  | [] => []
  | (text, target) :: calls =>
      (segmenter.segment text target).1 :: answers (segmenter.segment text target).2 calls

def after (segmenter : Segmenter) : List (String × TargetEncoding) → Segmenter
  | [] => segmenter
  | (text, target) :: calls => after (segmenter.segment text target).2 calls

def inParts (answers : List (Except CodecError SegmentedMessage)) : List SegmentedMessage :=
  (answers.filterMap Except.toOption).filter SegmentedMessage.isInParts

theorem isInParts_of_headed {message : SegmentedMessage} (present : message.segments ≠ [])
    (headed : ∀ segment ∈ message.segments, ∃ header : ConcatHeader, segment.header = some header) :
    message.isInParts = true := by
  rw [SegmentedMessage.isInParts, List.any_eq_true]
  refine ⟨message.segments.head present, List.head_mem present, ?_⟩
  obtain ⟨header, same⟩ := headed _ (List.head_mem present)
  rw [isConcatenated, same]
  rfl

theorem Takes.inParts_cases (takes : segmenter.Takes answer next)
    (others : List (Except CodecError SegmentedMessage)) :
    (∃ message, inParts (answer :: others) = message :: inParts others ∧
      next.reference = segmenter.reference + 1 ∧ ∀ segment ∈ message.segments,
        ∃ header, segment.header = some header ∧ header.reference = segmenter.reference) ∨
    inParts (answer :: others) = inParts others ∧ next = segmenter := by
  cases takes with
  | @alone message segment only headless =>
      have single : message.isInParts = false := by
        simp [SegmentedMessage.isInParts, only, isConcatenated, headless]
      exact Or.inr ⟨by simp [inParts, Except.toOption, single], rfl⟩
  | @several message present headed =>
      have several : message.isInParts = true :=
        isInParts_of_headed present fun segment member => ⟨_, (headed segment member).choose_spec.1⟩
      exact Or.inl ⟨message, by simp [inParts, Except.toOption, several], rfl, headed⟩
  | unencodable character => exact Or.inr ⟨rfl, rfl⟩
  | tooLong count many => exact Or.inr ⟨rfl, rfl⟩

theorem after_eq (segmenter : Segmenter) (calls : List (String × TargetEncoding)) :
    segmenter.after calls =
      ⟨segmenter.reference + UInt8.ofNat (inParts (segmenter.answers calls)).length⟩ := by
  induction calls generalizing segmenter with
  | nil =>
      have none : segmenter.reference + UInt8.ofNat 0 = segmenter.reference := by simp
      simp only [after, answers, inParts, List.filterMap_nil, List.filter_nil, List.length_nil, none]
  | cons call calls ih =>
      obtain ⟨text, target⟩ := call
      rw [after, answers, ih]
      rcases (segmenter.takes_segment text target).inParts_cases
          (answers (segmenter.segment text target).2 calls) with ⟨message, more, moved, _⟩ | ⟨same, kept⟩
      · rw [more, List.length_cons, moved, UInt8.ofNat_add]
        congr 1
        rw [UInt8.add_assoc, UInt8.add_comm 1]
        rfl
      · rw [same, kept]

theorem reference_of_inParts {place : Nat} {message : SegmentedMessage}
    (found : (inParts (segmenter.answers calls))[place]? = some message) :
    ∀ segment ∈ message.segments, ∃ header, segment.header = some header ∧
      header.reference = segmenter.reference + UInt8.ofNat place := by
  induction calls generalizing segmenter place with
  | nil => simp [answers, inParts] at found
  | cons call calls ih =>
      obtain ⟨text, target⟩ := call
      rw [answers] at found
      rcases (segmenter.takes_segment text target).inParts_cases
          (answers (segmenter.segment text target).2 calls) with ⟨first, more, moved, headed⟩ | ⟨same, kept⟩
      · rw [more] at found
        cases place with
        | zero =>
            obtain rfl := Option.some.inj found
            have own : segmenter.reference + UInt8.ofNat 0 = segmenter.reference := by simp
            rw [own]
            exact headed
        | succ place =>
            have later := ih (List.getElem?_cons_succ ▸ found)
            have sum : (segmenter.segment text target).2.reference + UInt8.ofNat place =
                segmenter.reference + UInt8.ofNat (place + 1) := by
              rw [moved, UInt8.ofNat_add, UInt8.add_assoc, UInt8.add_comm 1]
              rfl
            rwa [sum] at later
      · rw [same] at found
        have later := ih found
        rwa [kept] at later

theorem answers_concat (segmenter : Segmenter) (calls : List (String × TargetEncoding)) (text : String)
    (target : TargetEncoding) :
    segmenter.answers (calls ++ [(text, target)]) =
      segmenter.answers calls ++ [((segmenter.after calls).segment text target).1] := by
  induction calls generalizing segmenter with
  | nil => rfl
  | cons call calls ih =>
      obtain ⟨before, coding⟩ := call
      rw [List.cons_append, answers, ih, answers, after, List.cons_append]

theorem after_concat (segmenter : Segmenter) (calls : List (String × TargetEncoding)) (text : String)
    (target : TargetEncoding) :
    segmenter.after (calls ++ [(text, target)]) = ((segmenter.after calls).segment text target).2 := by
  induction calls generalizing segmenter with
  | nil => rfl
  | cons call calls ih =>
      obtain ⟨before, coding⟩ := call
      rw [List.cons_append, after, ih, after]

theorem reference_ne_of_near {reference : UInt8} {first second : Nat} (between : first < second)
    (near : second < first + 256) : reference + UInt8.ofNat first ≠ reference + UInt8.ofNat second := by
  intro same
  have values := congrArg UInt8.toNat same
  simp only [UInt8.toNat_add, UInt8.toNat_ofNat'] at values
  omega

/-- How references are handed out over a series of calls: the messages in parts have them in turn, 256 in a
row have different ones, each call takes at most one, and what it answers depends on the calls before it only
by how many of them took one. -/
structure HandsOut (segmenter : Segmenter) (calls : List (String × TargetEncoding)) : Prop where
  shared : ∀ (place : Nat) (message : SegmentedMessage),
    (inParts (segmenter.answers calls))[place]? = some message → ∀ segment ∈ message.segments,
      ∃ header, segment.header = some header ∧
        header.reference.toNat = (segmenter.reference.toNat + place) % 256
  distinct : ∀ (first second : Nat) (one other : SegmentedMessage), first < second → second < first + 256 →
    (inParts (segmenter.answers calls))[first]? = some one →
    (inParts (segmenter.answers calls))[second]? = some other →
    ∀ part ∈ one.segments, ∀ behind ∈ other.segments,
      part.header.map ConcatHeader.reference ≠ behind.header.map ConcatHeader.reference
  taken : ∀ text target, (segmenter.after calls).Takes ((segmenter.after calls).segment text target).1
    (segmenter.after (calls ++ [(text, target)]))
  next : ∀ text target, segmenter.answers (calls ++ [(text, target)]) = segmenter.answers calls ++
    [(Segmenter.segment ⟨segmenter.reference + UInt8.ofNat (inParts (segmenter.answers calls)).length⟩
      text target).1]

/-- The messages in parts are numbered one after the other, modulo 256, and nothing else is. -/
theorem references_follow (reference : UInt8) (calls : List (String × TargetEncoding)) :
    HandsOut ⟨reference⟩ calls := by
  constructor
  · intro place message found segment member
    obtain ⟨header, headed, same⟩ := reference_of_inParts found segment member
    refine ⟨header, headed, ?_⟩
    rw [same, UInt8.toNat_add, UInt8.toNat_ofNat']
    omega
  · intro first second one other between near foundOne foundOther part member behind memberBehind
    obtain ⟨header, headed, same⟩ := reference_of_inParts foundOne part member
    obtain ⟨last, headedLast, sameLast⟩ := reference_of_inParts foundOther behind memberBehind
    rw [headed, headedLast, Option.map_some, Option.map_some, same, sameLast]
    exact fun equal => reference_ne_of_near between near (Option.some.inj equal)
  · intro text target
    rw [after_concat]
    exact takes_segment _ text target
  · intro text target
    rw [answers_concat, after_eq]

/-- Two messages in parts and one alone between them. The reference after 255 is 0. -/
example :
    (inParts (answers ⟨255⟩
      [(String.ofList (List.replicate 71 'a'), .ucs2), ("Hello", .auto),
        (String.ofList (List.replicate 135 'b'), .ucs2)])).map
          (fun message => message.segments.map Segment.header) =
      [[some ⟨255, 2, 1⟩, some ⟨255, 2, 2⟩], [some ⟨0, 3, 1⟩, some ⟨0, 3, 2⟩, some ⟨0, 3, 3⟩]] := by
  decide +kernel

end Segmenter

end Smpp
