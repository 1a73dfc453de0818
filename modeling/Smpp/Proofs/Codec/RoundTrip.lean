import Mathlib.Algebra.GroupWithZero.Nat
import Smpp.Proofs.Codec.Bodies
import Smpp.Proofs.Codec.Stability

/-!
Encoded frames are read back. The octets of a frame tell where it ends, so that neither what follows
it nor a whole series of frames changes what is read.
-/

namespace Smpp

namespace Header

theorem decode_encode {header : Header}
    (accepted : size ≤ header.length.toNat ∧ header.length.toNat ≤ largestFrame) (rest : Octets) :
    decoder.decode (header.encode ++ rest) = (.ok header, rest) := by
  obtain ⟨length, ⟨id⟩, ⟨status⟩, sequence⟩ := header
  simp only [encode, Octets.ofWord32, List.cons_append, List.nil_append, Decoder.decode, ExceptT.run,
    decoder, Octets.toWord32_ofNat, checkLength_eq_ok_iff.mpr accepted]

theorem check_encode_append {header : Header} {body : Octets}
    (accepted : size ≤ header.length.toNat ∧ header.length.toNat ≤ largestFrame)
    (declared : header.length.toNat = size + body.length) (rest : Octets) :
    Frame.check (header.encode ++ body ++ rest) = .ok (size + body.length) := by
  have long : header.length.toNat ≤ (header.encode ++ body ++ rest).length := by
    simp only [List.length_append, length_encode]
    unfold size at declared
    omega
  rw [← declared]
  simp only [encode, Octets.ofWord32, List.cons_append, List.nil_append] at long ⊢
  simp only [Frame.check, Octets.toWord32_ofNat, checkLength_eq_ok_iff.mpr accepted]
  rw [if_neg]
  rw [List.length_take]
  omega

end Header

/-- The body can come out of a decoder: a frame that the session does not speak has an id that it
does not know and declares the length that it has. -/
def Body.IsGenuine : Body → Prop
  | .unknown id declaredLength octets =>
      Body.isRegistered id = false ∧ declaredLength.toNat = Header.size + octets.length
  | _ => True

def TagPolicy.Tolerates (policy : TagPolicy) (body : Body) : Prop :=
  policy = .strict → ∀ parameter ∈ body.parameters, Parameter.isStandard parameter.tag = true

namespace Frame

theorem checkTags_of_tolerates {policy : TagPolicy} {body : Body} (tolerated : policy.Tolerates body) :
    checkTags policy body = .ok () := by
  cases policy with
  | tolerant => rfl
  | strict =>
      have standard : body.parameters.find? (fun parameter => !Parameter.isStandard parameter.tag) = none := by
        simpa using tolerated rfl
      simp only [checkTags, standard]

theorem encode_eq_iff {frame : Frame} {written : Octets} :
    frame.encode = ⟨written, none⟩ ↔
      frame.body.validate = .ok () ∧ ∃ body,
        Encoding.ofFields (frame.body.fields frame.status) = ⟨body, none⟩ ∧
        Header.size + body.length ≤ Header.largestFrame ∧
        written = (frame.headerFor (Header.size + body.length)).encode ++ body := by
  simp only [encode]
  cases frame.body.validate with
  | error error => simp
  | ok nothing =>
      cases written' : Encoding.ofFields (frame.body.fields frame.status) with
      | mk body failure =>
          cases failure with
          | some error => simp
          | none =>
              dsimp only
              split
              · rename_i large
                simp only [Encoding.mk.injEq, reduceCtorEq, and_false, true_and, and_true, exists_eq_left',
                  false_iff, not_and]
                omega
              · rename_i fitting
                simp only [Encoding.mk.injEq, and_true, true_and, exists_eq_left']
                constructor
                · rintro rfl
                  exact ⟨by omega, rfl⟩
                · rintro ⟨_, rfl⟩
                  rfl

theorem length_headerFor (frame : Frame) {length : Nat} (small : length ≤ Header.largestFrame) :
    (frame.headerFor length).length.toNat = length := by
  unfold Header.largestFrame at small
  exact UInt32.toNat_ofNat_of_lt' (by unfold UInt32.size; omega)

theorem bodyDecoder_spoken {policy : TagPolicy} {header : Header} {body : Body} {octets : Octets}
    (tolerated : policy.Tolerates body) (valid : body.validate = .ok ())
    (spoken : ∀ id length octets, body ≠ .unknown id length octets)
    (command : header.commandId = body.commandId)
    (fields : Encoding.ofFields (body.fields header.status) = ⟨octets, none⟩) :
    (bodyDecoder policy header).decode octets = (.ok (header.frame body), []) := by
  obtain ⟨decoder, found, read⟩ := Body.decoder_of_fields valid spoken fields
  rw [bodyDecoder, command, found, Decoder.decode_bind_of_ok read,
    Decoder.decode_bind_of_ok (Decoder.decode_get [])]
  simp only [List.isEmpty_nil, Bool.not_true, Bool.false_eq_true, ↓reduceIte,
    checkTags_of_tolerates tolerated]
  rfl

theorem bodyDecoder_unknown {policy : TagPolicy} {header : Header} {octets : Octets}
    (unlisted : Body.isRegistered header.commandId = false)
    (declared : header.bodyLength = octets.length) :
    (bodyDecoder policy header).decode octets =
      (.ok (header.frame (.unknown header.commandId header.length octets)), []) := by
  have missing : Body.decoders.lookup header.commandId = none := by
    simpa [Body.isRegistered] using unlisted
  have read : (Decoder.octets header.bodyLength "body").decode octets = (.ok octets, []) :=
    Decoder.octets_eq_ok_iff.mpr ⟨declared.symm, by simp⟩
  rw [bodyDecoder, missing, Decoder.decode_bind_of_ok read]
  rfl

theorem bodyDecoder_encoded {policy : TagPolicy} {frame : Frame} {body : Octets}
    (genuine : frame.body.IsGenuine) (tolerated : policy.Tolerates frame.body)
    (valid : frame.body.validate = .ok ())
    (fields : Encoding.ofFields (frame.body.fields frame.status) = ⟨body, none⟩)
    (small : Header.size + body.length ≤ Header.largestFrame) :
    (bodyDecoder policy (frame.headerFor (Header.size + body.length))).decode body = (.ok frame, []) := by
  have declared := length_headerFor frame small
  obtain ⟨status, sequence, content⟩ := frame
  cases content with
  | unknown id length octets =>
      obtain ⟨unlisted, exact⟩ := genuine
      have same : octets = body := by
        simpa [Body.fields, Encoding.ofFields] using fields
      subst same
      rw [bodyDecoder_unknown unlisted (by rw [Header.bodyLength, declared]; omega)]
      have sameLength : (Frame.headerFor ⟨status, sequence, .unknown id length octets⟩
          (Header.size + octets.length)).length = length :=
        UInt32.toNat_inj.mp (declared.trans exact.symm)
      rw [sameLength]
      rfl
  | _ => exact bodyDecoder_spoken tolerated valid (fun _ _ _ => by simp) rfl fields

theorem ofOctets_encode {policy : TagPolicy} {header : Header} {frame : Frame} {body left : Octets}
    (accepted : Header.size ≤ header.length.toNat ∧ header.length.toNat ≤ Header.largestFrame)
    (read : (bodyDecoder policy header).decode body = (.ok frame, left)) :
    ofOctets policy (header.encode ++ body) = .ok frame := by
  have behind : (header.encode ++ body).drop Header.size = body :=
    List.drop_left' (by simp [Header.size])
  simp only [ofOctets, Header.decode_encode accepted, behind, bind, Except.bind, read]

theorem decode_encoded {policy : TagPolicy} {frame : Frame} {written : Octets}
    (genuine : frame.body.IsGenuine) (tolerated : policy.Tolerates frame.body)
    (encoded : frame.encode = ⟨written, none⟩) (rest : Octets) :
    decode policy (written ++ rest) = .ok (frame, written.length) := by
  obtain ⟨valid, body, fields, small, rfl⟩ := encode_eq_iff.mp encoded
  have declared := length_headerFor frame small
  have read := bodyDecoder_encoded genuine tolerated valid fields small
  have size : ((frame.headerFor (Header.size + body.length)).encode ++ body).length =
      Header.size + body.length := by
    rw [List.length_append, Header.length_encode]
    rfl
  rw [decode_eq_ok_iff]
  constructor
  · rw [size]
    exact Header.check_encode_append (by omega) declared rest
  · rw [List.take_left]
    exact ofOctets_encode (by omega) read

@[simp] theorem decodeAll_nil (policy : TagPolicy) : decodeAll policy [] = ([], none) := by
  rw [decodeAll]
  rfl

theorem decodeAll_of_ok {policy : TagPolicy} {octets : Octets} {frame : Frame} {length : Nat}
    (read : decode policy octets = .ok (frame, length)) :
    decodeAll policy octets =
      ((frame, length) :: (decodeAll policy (octets.drop length)).1,
        (decodeAll policy (octets.drop length)).2) := by
  have bounds := decode_bounds read
  have present : octets.isEmpty = false := by
    cases octets with
    | nil =>
        simp only [Header.size, List.length_nil] at bounds
        omega
    | cons first rest => rfl
  rw [decodeAll, present]
  simp only [Bool.false_eq_true, ↓reduceIte]
  split
  · rename_i refused
    rw [refused] at read
    cases read
  · rename_i found
    rw [found] at read
    cases read
    rfl

theorem encode_of_failure_eq_none {frame : Frame} (encodable : frame.encode.failure = none) :
    frame.encode = ⟨frame.encode.octets, none⟩ := by
  rw [← encodable]

theorem decodeAll_of_each {policy : TagPolicy} {frames : List Frame}
    (each : ∀ frame ∈ frames, ∀ rest, decode policy (frame.encode.octets ++ rest) =
      .ok (frame, frame.encode.octets.length)) :
    decodeAll policy (frames.flatMap fun frame => frame.encode.octets) =
      (frames.map fun frame => (frame, frame.encode.octets.length), none) := by
  induction frames with
  | nil => rw [List.flatMap_nil, decodeAll_nil, List.map_nil]
  | cons frame others ih =>
      rw [List.flatMap_cons, decodeAll_of_ok (each frame List.mem_cons_self _), List.drop_left,
        ih fun other member => each other (List.mem_cons_of_mem _ member)]
      rfl

/-- The encodings of a series of frames are read back one by one to the last octet: each frame is
found whatever follows it, and it has the size that was announced for it. -/
theorem decodeAll_flatMap_encode (policy : TagPolicy) (frames : List Frame)
    (genuine : ∀ frame ∈ frames, frame.body.IsGenuine)
    (tolerated : ∀ frame ∈ frames, policy.Tolerates frame.body)
    (encodable : ∀ frame ∈ frames, frame.encode.failure = none) :
    (∀ frame ∈ frames, frame.encodedSize = frame.encode.octets.length ∧
      ∀ rest, decode policy (frame.encode.octets ++ rest) =
        .ok (frame, frame.encode.octets.length)) ∧
    decodeAll policy (frames.flatMap fun frame => frame.encode.octets) =
      (frames.map fun frame => (frame, frame.encode.octets.length), none) ∧
    (frames.map fun frame => frame.encode.octets.length).sum =
      (frames.flatMap fun frame => frame.encode.octets).length := by
  have each : ∀ frame ∈ frames, ∀ rest, decode policy (frame.encode.octets ++ rest) =
      .ok (frame, frame.encode.octets.length) := fun frame member rest =>
    decode_encoded (genuine frame member) (tolerated frame member)
      (encode_of_failure_eq_none (encodable frame member)) rest
  refine ⟨fun frame member => ⟨?_, each frame member⟩, decodeAll_of_each each, List.length_flatMap.symm⟩
  simp only [encodedSize, toOctets, Encoding.result, encodable frame member]

def sampleSeries : List Frame :=
  [⟨.ok, 7, .submitSm
      { destinationAddress := "447700900123"
        octets := [72, 105]
        parameters := [⟨Parameter.messageState, [2]⟩] }⟩,
   ⟨.bindFailed, 1, .bindTransceiverResp {}⟩,
   ⟨.ok, 9, .unknown .dataSm 18 [0, 255]⟩]

theorem decodeAll_flatMap_encode_sample :
    decodeAll .strict (sampleSeries.flatMap fun frame => frame.encode.octets) =
      (sampleSeries.map fun frame => (frame, frame.encode.octets.length), none) := by
  refine (decodeAll_flatMap_encode .strict sampleSeries ?_ ?_ ?_).2.1
  · simp only [sampleSeries, List.mem_cons, List.not_mem_nil, or_false]
    rintro frame (rfl | rfl | rfl)
    · trivial
    · trivial
    · exact ⟨by decide, rfl⟩
  · simp only [sampleSeries, List.mem_cons, List.not_mem_nil, or_false]
    rintro frame (rfl | rfl | rfl) _ <;> decide
  · decide

end Frame

end Smpp
