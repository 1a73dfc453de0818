import Smpp.Codec.Buffer
import Smpp.Proofs.Codec.RoundTrip
import Smpp.Proofs.Stream.Writing

/-!
What frames leave in a buffer. A frame that can be encoded puts its octets behind what is there, and one
that is refused as a whole puts nothing there. A frame that breaks off in one of its fields leaves what it
has written so far, behind a header that declares no length.
-/

namespace Smpp

theorem Octets.overwrite_middle (front old back : Octets) {replacement : Octets}
    (size : replacement.length = old.length) :
    (front ++ (old ++ back)).overwrite front.length replacement = front ++ replacement ++ back := by
  rw [overwrite, List.take_left, size, ← List.append_assoc, ← List.length_append, List.drop_left]

theorem Field.append_eq (buffer : Octets) (fields : List (Except CodecError Octets)) :
    Field.append buffer fields =
      ((Encoding.ofFields fields).result.map fun _ => (), buffer ++ (Encoding.ofFields fields).octets) := by
  induction fields generalizing buffer with
  | nil =>
      rw [append, Encoding.ofFields_nil, List.append_nil]
      rfl
  | cons field fields ih =>
      cases field with
      | error error =>
          rw [append, Encoding.ofFields, List.append_nil]
          rfl
      | ok octets =>
          rw [append, ih, Encoding.ofFields, ← List.append_assoc]
          unfold Encoding.result
          cases (Encoding.ofFields fields).failure <;> rfl

theorem Encoding.ofFields_of_failure {fields : List (Except CodecError Octets)} {error : CodecError}
    (failed : (ofFields fields).failure = some error) :
    ∃ (written : List Octets) (rest : List (Except CodecError Octets)),
      fields = written.map .ok ++ .error error :: rest ∧ (ofFields fields).octets = written.flatten := by
  induction fields with
  | nil => cases failed
  | cons field fields ih =>
      cases field with
      | error found =>
          cases failed
          exact ⟨[], fields, rfl, rfl⟩
      | ok octets =>
          obtain ⟨written, rest, split, same⟩ := ih failed
          refine ⟨octets :: written, rest, ?_, ?_⟩
          · rw [split, List.map_cons, List.cons_append]
          · rw [ofFields, same, List.flatten_cons]

namespace Frame

variable {frame : Frame} {error : CodecError}

/-- Nothing is wrong with the values as such, but a field of the body does not fit. -/
def BreaksOff (frame : Frame) : Prop :=
  frame.body.validate = .ok () ∧ (Encoding.ofFields (frame.body.fields frame.status)).failure ≠ none

theorem encode_of_invalid (invalid : frame.body.validate = .error error) :
    frame.encode = ⟨[], some error⟩ := by
  rw [encode, invalid]

theorem encode_of_field {body : Octets} (valid : frame.body.validate = .ok ())
    (written : Encoding.ofFields (frame.body.fields frame.status) = ⟨body, some error⟩) :
    frame.encode = ⟨(frame.headerFor 0).encode ++ body, some error⟩ := by
  rw [encode, valid]
  simp only [written]

theorem encode_of_body {body : Octets} (valid : frame.body.validate = .ok ())
    (written : Encoding.ofFields (frame.body.fields frame.status) = ⟨body, none⟩) :
    frame.encode =
      if Header.largestFrame < Header.size + body.length then
        ⟨[], some (.fieldTooLong "command_length" Header.largestFrame (Header.size + body.length))⟩
      else ⟨(frame.headerFor (Header.size + body.length)).encode ++ body, none⟩ := by
  rw [encode, valid]
  simp only [written]

theorem overwrite_header (buffer body : Octets) (frame : Frame) (length : Nat) :
    (buffer ++ (frame.headerFor 0).encode ++ body).overwrite buffer.length
        (Octets.ofWord32 (UInt32.ofNat length)) =
      buffer ++ ((frame.headerFor length).encode ++ body) := by
  -- The rest of the header does not depend on the length.
  obtain ⟨others, behind⟩ : ∃ others, ∀ length,
      (frame.headerFor length).encode = Octets.ofWord32 (UInt32.ofNat length) ++ others := by
    refine ⟨Octets.ofWord32 frame.commandId.code ++
      (Octets.ofWord32 frame.status.code ++ Octets.ofWord32 frame.sequence), fun length => ?_⟩
    rw [Header.encode, List.append_assoc, List.append_assoc]
    rfl
  have size : (Octets.ofWord32 (UInt32.ofNat length)).length = (Octets.ofWord32 (UInt32.ofNat 0)).length := rfl
  rw [behind 0, behind length, List.append_assoc, List.append_assoc, Octets.overwrite_middle _ _ _ size,
    List.append_assoc, List.append_assoc]

theorem appendTo_eq (buffer : Octets) (frame : Frame) :
    frame.appendTo buffer = (frame.toOctets.map fun _ => (), buffer ++ frame.encode.octets) := by
  unfold appendTo toOctets
  cases valid : frame.body.validate with
  | error error =>
      rw [encode_of_invalid valid, List.append_nil]
      rfl
  | ok nothing =>
      dsimp only
      rw [Field.append_eq]
      cases written : Encoding.ofFields (frame.body.fields frame.status) with
      | mk body failure =>
          cases failure with
          | some error =>
              rw [encode_of_field valid written, ← List.append_assoc]
              rfl
          | none =>
              have length : (buffer ++ (frame.headerFor 0).encode ++ body).length - buffer.length =
                  Header.size + body.length := by
                rw [List.length_append, List.length_append, Header.length_encode, Header.size]
                omega
              rw [encode_of_body valid written]
              simp only [Encoding.result, Except.map, length]
              by_cases large : Header.largestFrame < Header.size + body.length
              · -- What has been written is cut off again.
                rw [if_pos large, if_pos large, List.append_assoc, List.take_left, List.append_nil]
              · rw [if_neg large, if_neg large, overwrite_header]

theorem octets_of_error (failed : frame.toOctets = .error error) :
    (¬ frame.BreaksOff ∧ frame.encode.octets = []) ∨
    (frame.BreaksOff ∧ ∃ (written : List Octets) (rest : List (Except CodecError Octets)),
      frame.body.fields frame.status = written.map .ok ++ .error error :: rest ∧
      frame.encode.octets = (frame.headerFor 0).encode ++ written.flatten) := by
  unfold toOctets at failed
  cases valid : frame.body.validate with
  | error invalid =>
      refine Or.inl ⟨fun breaks => ?_, ?_⟩
      · rw [breaks.1] at valid
        cases valid
      · rw [encode_of_invalid valid]
  | ok nothing =>
      cases written : Encoding.ofFields (frame.body.fields frame.status) with
      | mk body failure =>
          cases failure with
          | some found =>
              have failure : (Encoding.ofFields (frame.body.fields frame.status)).failure = some found := by
                rw [written]
              rw [encode_of_field valid written] at failed ⊢
              obtain rfl := Except.error.inj failed
              obtain ⟨front, rest, split, same⟩ := Encoding.ofFields_of_failure failure
              rw [written] at same
              refine Or.inr ⟨⟨valid, ?_⟩, front, rest, split, ?_⟩
              · rw [failure]
                exact Option.some_ne_none found
              · rw [← same]
          | none =>
              rw [encode_of_body valid written] at failed ⊢
              split at failed
              · rename_i large
                refine Or.inl ⟨fun breaks => breaks.2 ?_, ?_⟩
                · rw [written]
                · rw [if_pos large]
              · cases failed

theorem size_of_toOctets {octets : Octets} (encoded : frame.toOctets = .ok octets) :
    octets.take 4 = Octets.ofWord32 (UInt32.ofNat octets.length) ∧ 16 ≤ octets.length ∧
      octets.length ≤ 65536 := by
  obtain ⟨encodable, rfl⟩ := toOctets_eq_ok_iff.mp encoded
  obtain ⟨_, body, _, small, whole⟩ := encode_eq_iff.mp (encode_of_failure_eq_none encodable)
  have size : frame.encode.octets.length = 16 + body.length := by
    rw [whole, List.length_append, Header.length_encode]
  rw [size]
  unfold Header.size Header.largestFrame at small
  refine ⟨?_, by omega, small⟩
  rw [whole]
  rfl

theorem appendAll_eq {frames : List Frame} (whole : ∀ frame ∈ frames, ¬ frame.BreaksOff) (buffer : Octets) :
    appendAll buffer frames = buffer ++ (frames.filterMap fun frame => frame.toOctets.toOption).flatten := by
  unfold appendAll
  induction frames generalizing buffer with
  | nil => rw [List.foldl_nil, List.filterMap_nil, List.flatten_nil, List.append_nil]
  | cons frame frames ih =>
      have others := ih fun other member => whole other (List.mem_cons_of_mem _ member)
      rw [List.foldl_cons, others, appendTo_eq]
      cases encoded : frame.toOctets with
      | error error =>
          rcases octets_of_error encoded with ⟨_, nothing⟩ | ⟨breaks, _⟩
          · rw [nothing, List.append_nil, List.filterMap_cons, encoded]
            rfl
          · exact absurd breaks (whole frame List.mem_cons_self)
      | ok octets =>
          obtain ⟨_, same⟩ := toOctets_eq_ok_iff.mp encoded
          rw [← same, List.filterMap_cons, encoded, List.append_assoc]
          rfl

/-- A frame that can be encoded stands behind the buffer with its length at its head. One that fails
leaves the buffer as it was if, and only if, it does not break off; otherwise a header without a length and
the fields in front of the failing one are left. So a series of frames of which none breaks off leaves the
octets of those that could be encoded. -/
theorem appendTo_appends (buffer : Octets) (frame : Frame) :
    (frame.appendTo buffer).1 = frame.toOctets.map (fun _ => ()) ∧
    (∀ octets, frame.toOctets = .ok octets →
      (frame.appendTo buffer).2 = buffer ++ octets ∧
      octets.take 4 = Octets.ofWord32 (UInt32.ofNat octets.length) ∧
      16 ≤ octets.length ∧ octets.length ≤ 65536) ∧
    (∀ error, frame.toOctets = .error error →
      ((frame.appendTo buffer).2 = buffer ↔ ¬ frame.BreaksOff) ∧
      (frame.BreaksOff → ∃ (written : List Octets) (rest : List (Except CodecError Octets)),
        frame.body.fields frame.status = written.map .ok ++ .error error :: rest ∧
        (frame.appendTo buffer).2 = buffer ++ (frame.headerFor 0).encode ++ written.flatten)) ∧
    ∀ frames : List Frame, (∀ frame ∈ frames, ¬ frame.BreaksOff) →
      appendAll buffer frames =
        buffer ++ (frames.filterMap fun frame => frame.toOctets.toOption).flatten := by
  rw [appendTo_eq]
  refine ⟨rfl, fun octets encoded => ?_, fun error failed => ?_, fun frames whole => appendAll_eq whole buffer⟩
  · obtain ⟨_, rfl⟩ := toOctets_eq_ok_iff.mp encoded
    exact ⟨rfl, size_of_toOctets encoded⟩
  · rcases octets_of_error failed with ⟨whole, nothing⟩ | ⟨breaks, written, rest, split, debris⟩
    · refine ⟨⟨fun _ => whole, fun _ => ?_⟩, fun breaks => absurd breaks whole⟩
      rw [nothing, List.append_nil]
    · refine ⟨⟨fun same => ?_, fun whole => absurd breaks whole⟩, fun _ => ⟨written, rest, split, ?_⟩⟩
      · rw [debris, List.append_right_eq_self] at same
        cases same
      · rw [debris, ← List.append_assoc]

def longPassword : Frame := ⟨.ok, 1, .bindTransceiver { systemId := "esme", password := "123456789" }⟩

theorem appendTo_appends_sample :
    (∀ frame ∈ [⟨.ok, 2, .enquireLink⟩, ⟨.ok, 3, .bindTransceiver { systemId := "" }⟩], ¬ BreaksOff frame) ∧
    appendAll [7] [⟨.ok, 2, .enquireLink⟩, ⟨.ok, 3, .bindTransceiver { systemId := "" }⟩] =
      7 :: [0, 0, 0, 16, 0, 0, 0, 21, 0, 0, 0, 0, 0, 0, 0, 2] := by
  have whole : ∀ frame ∈ [⟨.ok, 2, .enquireLink⟩, ⟨.ok, 3, .bindTransceiver { systemId := "" }⟩],
      ¬ BreaksOff frame := by
    intro frame member breaks
    rcases List.mem_cons.mp member with rfl | last
    · exact breaks.2 rfl
    · rw [List.mem_singleton.mp last] at breaks
      cases breaks.1
  exact ⟨whole, (appendTo_appends [7] longPassword).2.2.2 _ whole⟩

/-- What the bind leaves in the buffer reads as a frame without a length, and hides the frame behind it. -/
theorem appendTo_leaves_debris :
    (longPassword.appendTo []).1 = .error (.fieldTooLong "password" 8 9) ∧
    (longPassword.appendTo []).2 =
      [0, 0, 0, 0, 0, 0, 0, 9, 0, 0, 0, 0, 0, 0, 0, 1, 101, 115, 109, 101, 0] ∧
    check (appendAll [] [longPassword, ⟨.ok, 2, .enquireLink⟩]) = .error (.invalidLength 0 16 65536) :=
  ⟨rfl, by decide +kernel, rfl⟩

end Frame

end Smpp
