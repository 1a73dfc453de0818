import Smpp.Proofs.Codec.Safety
import Smpp.Proofs.Stream.Framing

/-!
Strict decoding is tolerant decoding with one check behind it. The check comes last, after the body
and what is left over, so that it never hides another error; and it never moves the place of the next
frame, so that a strict and a tolerant reader of one stream stay side by side up to its end.
-/

namespace Smpp

namespace Frame

def FirstForeign (frame : Frame) (tag : UInt16) : Prop :=
  ∃ earlier foreign later, frame.parameters = earlier ++ foreign :: later ∧ foreign.tag = tag ∧
    Parameter.isStandard tag = false ∧ ∀ other ∈ earlier, Parameter.isStandard other.tag = true

def IsStandard (frame : Frame) : Prop :=
  ∀ parameter ∈ frame.parameters, Parameter.isStandard parameter.tag = true

structure Tightens (octets : Octets) : Prop where
  refuses : ∀ {frame : Frame} {length : Nat} {tag : UInt16},
    decode .tolerant octets = .ok (frame, length) → frame.FirstForeign tag →
      decode .strict octets = .error (.unexpectedParameter tag)
  agrees : (∀ frame length, decode .tolerant octets = .ok (frame, length) → frame.IsStandard) →
    decode .strict octets = decode .tolerant octets

/-- The check that makes the difference, on a frame that is decoded. -/
def insist (frame : Frame) : Except CodecError Frame := do
  checkTags .strict frame.body
  pure frame

theorem insist_of_isStandard {frame : Frame} (standard : frame.IsStandard) : frame.insist = .ok frame := by
  have none : frame.body.parameters.find? (fun parameter => !Parameter.isStandard parameter.tag) = none := by
    simpa [IsStandard, parameters] using standard
  simp only [insist, checkTags, none]
  rfl

theorem insist_of_firstForeign {frame : Frame} {tag : UInt16} (first : frame.FirstForeign tag) :
    frame.insist = .error (.unexpectedParameter tag) := by
  obtain ⟨earlier, foreign, later, split, rfl, unlisted, listed⟩ := first
  have passed : earlier.find? (fun parameter => !Parameter.isStandard parameter.tag) = none := by
    simpa using listed
  have found : frame.body.parameters.find? (fun parameter => !Parameter.isStandard parameter.tag) =
      some foreign := by
    change frame.parameters.find? _ = _
    rw [split, List.find?_append, passed]
    simp [unlisted]
  simp only [insist, checkTags, found]
  rfl

theorem isStandard_or_firstForeign (frame : Frame) :
    frame.IsStandard ∨ ∃ tag, frame.FirstForeign tag := by
  cases found : frame.parameters.find? fun parameter => !Parameter.isStandard parameter.tag with
  | none => exact Or.inl (by simpa [IsStandard] using found)
  | some foreign =>
      obtain ⟨unlisted, earlier, later, split, listed⟩ := List.find?_eq_some_iff_append.mp found
      exact Or.inr ⟨foreign.tag, earlier, foreign, later, split, rfl, by simpa using unlisted,
        by simpa using listed⟩

theorem bodyDecoder_strict (header : Header) (octets : Octets) :
    ((bodyDecoder .strict header).decode octets).1 =
      ((bodyDecoder .tolerant header).decode octets).1.bind insist := by
  rw [bodyDecoder, bodyDecoder]
  split
  · rw [Decoder.decode_bind]
    rcases (Decoder.octets header.bodyLength "body").decode octets with ⟨error | content, left⟩ <;> rfl
  · rename_i decoder _
    rw [Decoder.decode_bind, Decoder.decode_bind]
    rcases decoder.decode octets with ⟨error | body, left⟩
    · rfl
    · dsimp only
      rw [Decoder.decode_bind_of_ok (Decoder.decode_get left),
        Decoder.decode_bind_of_ok (Decoder.decode_get left)]
      -- What is left over is refused by both before a tag is looked at.
      cases left with
      | cons first others => rfl
      | nil =>
          change _ = (header.frame body).insist
          rw [insist, show (header.frame body).body = body from rfl]
          cases checkTags .strict body <;> rfl

theorem decode_strict (octets : Octets) :
    decode .strict octets =
      (decode .tolerant octets).bind fun (frame, length) => frame.insist.map fun frame => (frame, length) := by
  cases checked : check octets with
  | error error => simp only [decode, checked, bind, Except.bind]
  | ok length =>
      obtain ⟨header, opens, _⟩ := Header.decode_of_check (check_take checked)
      have strict : ∀ policy, ofOctets policy (octets.take length) =
          ((bodyDecoder policy header).decode ((octets.take length).drop Header.size)).1 := by
        intro policy
        simp only [ofOctets, opens, bind, Except.bind]
      rw [decode_of_check checked, decode_of_check checked, strict, strict, bodyDecoder_strict]
      cases ((bodyDecoder .tolerant header).decode ((octets.take length).drop Header.size)).1 <;> rfl

theorem tightens (octets : Octets) : Tightens octets where
  refuses := by
    intro frame length tag decoded first
    rw [decode_strict, decoded]
    simp only [Except.bind, insist_of_firstForeign first, Except.map]
  agrees := by
    intro standard
    rw [decode_strict]
    cases decoded : decode .tolerant octets with
    | error error => rfl
    | ok result =>
        obtain ⟨frame, length⟩ := result
        simp only [Except.bind, insist_of_isStandard (standard frame length decoded), Except.map]

/-- A response to a bind whose second parameter has a vendor's tag: what refuses it is the check alone. -/
def foreignResponse : Octets :=
  [0, 0, 0, 26, 128, 0, 0, 9, 0, 0, 0, 0, 0, 0, 0, 1, 0, 2, 16, 0, 1, 52, 20, 1, 0, 0]

example : decode .tolerant foreignResponse =
    .ok (⟨.ok, 1, .bindTransceiverResp { parameters := [⟨0x0210, [52]⟩, ⟨0x1401, []⟩] }⟩, 26) := by cbv

example : decode .strict foreignResponse = .error (.unexpectedParameter 0x1401) := by cbv

end Frame

namespace Inbound

inductive Differs (piece : Octets) : Event → Event → Prop
  | accepted {frame : Frame} (decoded : Frame.decode .tolerant piece = .ok (frame, piece.length))
      (standard : frame.IsStandard) : Differs piece (.frame frame) (.frame frame)
  | refused {frame : Frame} {header : Header} {tag : UInt16}
      (decoded : Frame.decode .tolerant piece = .ok (frame, piece.length))
      (opens : (Header.decoder.decode piece).1 = .ok header) (first : frame.FirstForeign tag) :
      Differs piece (.frame frame) (.malformed header (.unexpectedParameter tag))
  | malformed {header : Header} {error : CodecError}
      (opens : (Header.decoder.decode piece).1 = .ok header)
      (refused : Frame.decode .tolerant piece = .error error) :
      Differs piece (.malformed header error) (.malformed header error)

/-- Both readers cut the octets into the same frames, and the same octets are left. -/
inductive CutAlike : Octets → List Event → List Event → Octets → Prop
  | done (left : Octets) : CutAlike left [] [] left
  | next {piece rest left : Octets} {event strictEvent : Event} {events strictEvents : List Event}
      (whole : Frame.check (piece ++ rest) = .ok piece.length) (found : Differs piece event strictEvent)
      (others : CutAlike rest events strictEvents left) :
      CutAlike (piece ++ rest) (event :: events) (strictEvent :: strictEvents) left

/-- Side by side: either both readers wait behind the same frames for the same one, or the stream has
ended for both behind the same frames and in the same way. -/
inductive SideBySide (octets : Octets) : List Event × Option Inbound → List Event × Option Inbound → Prop
  | waiting {events strictEvents : List Event} {left : Octets}
      (cut : CutAlike octets events strictEvents left) (partly : Frame.check left = .error .incomplete) :
      SideBySide octets (events, some ⟨.tolerant, left⟩) (strictEvents, some ⟨.strict, left⟩)
  | ended {events strictEvents : List Event} {left : Octets} {last : Event}
      (cut : CutAlike octets events strictEvents left) (ends : Ends left last) :
      SideBySide octets (events ++ [last], none) (strictEvents ++ [last], none)

theorem SideBySide.next {piece rest : Octets} {event strictEvent : Event}
    {served strictServed : List Event × Option Inbound}
    (whole : Frame.check (piece ++ rest) = .ok piece.length) (found : Differs piece event strictEvent)
    (others : SideBySide rest served strictServed) :
    SideBySide (piece ++ rest) (event :: served.1, served.2) (strictEvent :: strictServed.1, strictServed.2) := by
  cases others with
  | waiting cut partly => exact .waiting (.next whole found cut) partly
  | ended cut ends => exact .ended (.next whole found cut) ends

theorem ofFrame_of_whole {policy : TagPolicy} {piece : Octets} {header : Header}
    (whole : Frame.check piece = .ok piece.length) (opens : (Header.decoder.decode piece).1 = .ok header) :
    Event.ofFrame policy piece =
      match Frame.decode policy piece with
      | .ok (decoded, _) => .frame decoded
      | .error error => .malformed header error := by
  have found : Event.ofFrame policy (piece.take piece.length) = _ := Event.ofFrame_take whole opens
  rwa [List.take_length] at found

theorem differs_ofFrame {piece : Octets} (whole : Frame.check piece = .ok piece.length) :
    Differs piece (Event.ofFrame .tolerant piece) (Event.ofFrame .strict piece) := by
  obtain ⟨header, opens, _⟩ := Header.decode_of_check whole
  rw [ofFrame_of_whole whole opens, ofFrame_of_whole whole opens]
  cases decoded : Frame.decode .tolerant piece with
  | error error =>
      have same := (Frame.tightens piece).agrees fun frame length impossible => by
        cases decoded.symm.trans impossible
      rw [same, decoded]
      exact .malformed opens decoded
  | ok result =>
      obtain ⟨frame, length⟩ := result
      cases (Frame.decode_eq_ok_iff.mp decoded).1.symm.trans whole
      obtain standard | ⟨tag, first⟩ := frame.isStandard_or_firstForeign
      · have same := (Frame.tightens piece).agrees fun other length otherwise => by
          cases decoded.symm.trans otherwise
          exact standard
        rw [same, decoded]
        exact .accepted decoded standard
      · rw [(Frame.tightens piece).refuses decoded first]
        exact .refused decoded opens first

theorem Differs.goesOn {piece : Octets} {event strictEvent : Event} (found : Differs piece event strictEvent) :
    strictEvent.isLast = false := by
  cases found <;> rfl

section

variable {reader rest : Inbound} {event : Event}

theorem strict_next?_of_none (missing : reader.next? = none) : next? ⟨.strict, reader.buffered⟩ = none := by
  simp only [next?, check_of_next?_eq_none missing]

theorem strict_next?_of_last (found : reader.next? = some (event, rest)) (last : event.isLast = true) :
    next? ⟨.strict, reader.buffered⟩ = some (event, ⟨.strict, reader.buffered⟩) := by
  unfold next? at found
  split at found
  · rename_i length checked
    cases found
    obtain ⟨header, opens, _⟩ := Header.decode_of_check checked
    rw [Event.ofFrame_take checked opens] at last
    split at last <;> cases last
  · cases found
  · rename_i error decided checked
    cases found
    simp only [next?, checked]

theorem strict_next?_of_next (tolerant : reader.policy = .tolerant) (found : reader.next? = some (event, rest))
    (goesOn : event.isLast = false) :
    rest.policy = .tolerant ∧ ∃ piece strictEvent, reader.buffered = piece ++ rest.buffered ∧
      Frame.check reader.buffered = .ok piece.length ∧ Differs piece event strictEvent ∧
      next? ⟨.strict, reader.buffered⟩ = some (strictEvent, ⟨.strict, rest.buffered⟩) := by
  unfold next? at found
  split at found
  · rename_i length checked
    rw [tolerant] at found
    cases found
    have size : (reader.buffered.take length).length = length :=
      List.length_take_of_le (Frame.check_bounds checked).2
    refine ⟨rfl, reader.buffered.take length, Event.ofFrame .strict (reader.buffered.take length),
      (List.take_append_drop _ _).symm, ?_, differs_ofFrame ?_, ?_⟩
    · rw [size, checked]
    · rw [size, Frame.check_take checked]
    · simp only [next?, checked]
  · cases found
  · cases found
    cases goesOn

end

def arrivedBeforeEnd (arrivals : List Arrival) : Octets :=
  arrived (arrivals.takeWhile fun arrival => arrival ≠ .read [])

@[simp] theorem arrivedBeforeEnd_nil : arrivedBeforeEnd [] = [] := rfl

@[simp] theorem arrivedBeforeEnd_dropped (arrivals : List Arrival) :
    arrivedBeforeEnd (.dropped :: arrivals) = arrivedBeforeEnd arrivals := rfl

@[simp] theorem arrivedBeforeEnd_ended (arrivals : List Arrival) :
    arrivedBeforeEnd (.read [] :: arrivals) = [] := rfl

@[simp] theorem arrivedBeforeEnd_read (first : UInt8) (others : Octets) (arrivals : List Arrival) :
    arrivedBeforeEnd (.read (first :: others) :: arrivals) =
      first :: others ++ arrivedBeforeEnd arrivals := rfl

theorem sideBySide_of_serve (reader : Inbound) (tolerant : reader.policy = .tolerant) (arrivals : List Arrival) :
    SideBySide (reader.buffered ++ arrivedBeforeEnd arrivals) (reader.serve arrivals)
      (serve ⟨.strict, reader.buffered⟩ arrivals) := by
  induction reader, arrivals using serve_induction with
  | last reader event rest arrivals found last =>
      rw [serve_of_last found last, serve_of_last (strict_next?_of_last found last) last]
      exact .ended (.done _) (ends_of_next? found last _)
  | next reader event rest arrivals found goesOn ih =>
      obtain ⟨same, piece, strictEvent, split, whole, differs, strict⟩ :=
        strict_next?_of_next tolerant found goesOn
      rw [serve_of_next found goesOn, serve_of_next strict differs.goesOn]
      have longer := Frame.check_append whole (arrivedBeforeEnd arrivals)
      rw [split, List.append_assoc] at longer ⊢
      exact .next longer differs (ih same)
  | nil reader missing =>
      obtain ⟨policy, buffered⟩ := reader
      subst tolerant
      rw [serve_nil_of_none missing, serve_nil_of_none (strict_next?_of_none missing),
        arrivedBeforeEnd_nil, List.append_nil]
      exact .waiting (.done _) (check_of_next?_eq_none missing)
  | dropped reader arrivals missing ih =>
      rw [serve_dropped_of_none missing, serve_dropped_of_none (strict_next?_of_none missing),
        arrivedBeforeEnd_dropped]
      exact ih tolerant
  | ended reader arrivals missing =>
      rw [serve_ended_of_none missing, serve_ended_of_none (strict_next?_of_none missing),
        arrivedBeforeEnd_ended, List.append_nil]
      exact .ended (.done _) (ends_atEnd missing)
  | read reader first others arrivals missing ih =>
      rw [serve_read_of_none missing, serve_read_of_none (strict_next?_of_none missing),
        arrivedBeforeEnd_read, ← List.append_assoc]
      exact ih tolerant

/-- Strictness refuses the frames with a tag that the protocol does not list, each for its first one, and
changes nothing else: not what any other octets decode to, not where a frame ends, and not how a
stream does. -/
theorem strictness_only_refuses :
    (∀ octets, Frame.Tightens octets) ∧
    ∀ arrivals, SideBySide (arrivedBeforeEnd arrivals) (serve ⟨.tolerant, []⟩ arrivals)
      (serve ⟨.strict, []⟩ arrivals) :=
  ⟨Frame.tightens, sideBySide_of_serve ⟨.tolerant, []⟩ rfl⟩

end Inbound

end Smpp
