import Smpp.Proofs.Codec.RoundTrip

/-!
Decoded frames written again. The values that a decoder gives and the encoder refuses are listed; every
other accepted frame is written as it came, but for the null octet of a response that says nothing.
-/

namespace Smpp

namespace Header

theorem encode_of_decode {octets rest : Octets} {header : Header}
    (read : decoder.decode octets = (.ok header, rest)) : octets = header.encode ++ rest := by
  simp only [Decoder.decode, ExceptT.run] at read
  unfold decoder at read
  split at read
  · dsimp only at read
    split at read
    · cases read
    · cases read
      simp only [encode, Octets.ofWord32_toWord32, List.cons_append, List.nil_append]
  · cases read

end Header

namespace Decoder

theorem decode_map_eq_ok_iff {Part Whole : Type} {decoder : Decoder Part} {make : Part → Whole}
    {octets left : Octets} {whole : Whole} :
    decode (make <$> decoder) octets = (.ok whole, left) ↔
      ∃ part, decode decoder octets = (.ok part, left) ∧ make part = whole := by
  rw [map_eq_pure_bind, decode_bind_eq_ok_iff]
  constructor
  · rintro ⟨part, middle, read, made⟩
    rw [decode_pure] at made
    cases made
    exact ⟨part, read, rfl⟩
  · rintro ⟨part, read, rfl⟩
    exact ⟨part, left, read, rfl⟩

end Decoder

namespace Body

open Decoder

/-- Responses that say nothing, with or without the null octet of an empty text. -/
inductive IsSilent : Body → Prop
  | bindTransceiverResp : IsSilent (.bindTransceiverResp {})
  | submitSmResp : IsSilent (.submitSmResp "")
  | deliverSmResp : IsSilent (.deliverSmResp "")

/-- Bodies that a decoder may give and the encoder refuses. -/
inductive IsRefused : Body → Prop
  | unnamed {request : BindRequest} (empty : request.systemId = "") : IsRefused (.bindTransceiver request)
  | submittedNowhere {message : ShortMessage} (empty : message.destinationAddress = "") :
      IsRefused (.submitSm message)
  | submittedLong {message : ShortMessage} (long : message.octets.length = 255) : IsRefused (.submitSm message)
  | deliveredNowhere {message : ShortMessage} (empty : message.destinationAddress = "") :
      IsRefused (.deliverSm message)
  | deliveredLong {message : ShortMessage} (long : message.octets.length = 255) : IsRefused (.deliverSm message)
  | deliveredTwice {message : ShortMessage} (present : message.octets ≠ [])
      (again : ∃ parameter ∈ message.parameters, parameter.tag = Parameter.messagePayload) :
      IsRefused (.deliverSm message)

def shortMessage : Body → Octets
  | submitSm message | deliverSm message => message.octets
  | _ => []

theorem checkLength_eq_ok_iff {message : ShortMessage} :
    validate.checkLength message = .ok () ↔ message.octets.length ≤ 254 := by
  rw [validate.checkLength, longestMessage]
  split
  · rename_i long
    simp only [reduceCtorEq, false_iff]
    omega
  · rename_i short
    simp only [true_iff]
    omega

theorem find?_isSome_iff {tag : UInt16} {parameters : List Parameter} :
    (Parameter.find? tag parameters).isSome = true ↔ ∃ parameter ∈ parameters, parameter.tag = tag := by
  simp only [Parameter.find?, List.find?_isSome, beq_iff_eq]

theorem error_eq_ok_iff {body : Body} (refused : body.IsRefused) {error : CodecError} :
    Except.error error = (.ok () : Except CodecError Unit) ↔ ¬body.IsRefused := by
  constructor
  · intro accepted
    cases accepted
  · intro fine
    exact absurd refused fine

theorem validate_submitSm_iff {message : ShortMessage} (short : message.octets.length < 256) :
    (submitSm message).validate = .ok () ↔ ¬(submitSm message).IsRefused := by
  rw [validate]
  by_cases empty : message.destinationAddress = ""
  · have refused : (submitSm message).IsRefused := .submittedNowhere empty
    rw [if_pos (String.isEmpty_iff.mpr empty)]
    exact error_eq_ok_iff refused
  · rw [if_neg (by rwa [String.isEmpty_iff]), checkLength_eq_ok_iff]
    constructor
    · intro within refused
      cases refused with
      | submittedNowhere nowhere => exact empty nowhere
      | submittedLong long => omega
    · intro accepted
      have notLong : message.octets.length ≠ 255 := fun long => accepted (.submittedLong long)
      omega

theorem validate_deliverSm_iff {message : ShortMessage} (short : message.octets.length < 256) :
    (deliverSm message).validate = .ok () ↔ ¬(deliverSm message).IsRefused := by
  rw [validate]
  by_cases empty : message.destinationAddress = ""
  · have refused : (deliverSm message).IsRefused := .deliveredNowhere empty
    rw [if_pos (String.isEmpty_iff.mpr empty)]
    exact error_eq_ok_iff refused
  · rw [if_neg (by rwa [String.isEmpty_iff])]
    by_cases twice : message.octets ≠ [] ∧
        ∃ parameter ∈ message.parameters, parameter.tag = Parameter.messagePayload
    · have refused : (deliverSm message).IsRefused := .deliveredTwice twice.1 twice.2
      have both : (!message.octets.isEmpty &&
          (Parameter.find? Parameter.messagePayload message.parameters).isSome) = true := by
        simpa [find?_isSome_iff] using twice
      rw [if_pos both]
      exact error_eq_ok_iff refused
    · have once : ¬(!message.octets.isEmpty &&
          (Parameter.find? Parameter.messagePayload message.parameters).isSome) = true := by
        simpa [find?_isSome_iff] using twice
      rw [if_neg once, checkLength_eq_ok_iff]
      constructor
      · intro within refused
        cases refused with
        | deliveredNowhere nowhere => exact empty nowhere
        | deliveredLong long => omega
        | deliveredTwice present again => exact twice ⟨present, again⟩
      · intro accepted
        have notLong : message.octets.length ≠ 255 := fun long => accepted (.deliveredLong long)
        omega

theorem validate_eq_ok_iff {body : Body} (short : body.shortMessage.length < 256) :
    body.validate = .ok () ↔ ¬body.IsRefused := by
  cases body with
  | bindTransceiver request =>
      rw [validate]
      by_cases empty : request.systemId = ""
      · have refused : (bindTransceiver request).IsRefused := .unnamed empty
        rw [if_pos (String.isEmpty_iff.mpr empty)]
        exact error_eq_ok_iff refused
      · rw [if_neg (by rwa [String.isEmpty_iff])]
        refine iff_of_true rfl fun refused => ?_
        cases refused with
        | unnamed nameless => exact empty nameless
  | submitSm message => exact validate_submitSm_iff short
  | deliverSm message => exact validate_deliverSm_iff short
  | _ =>
      refine iff_of_true rfl fun refused => ?_
      cases refused

theorem ofFields_of_silent {body : Body} (silent : body.IsSilent) :
    Encoding.ofFields (body.fields .ok) = ⟨[0], none⟩ := by
  cases silent <;> decide

theorem fields_cases (body : Body) (status : CommandStatus) :
    body.fields status = body.fields .ok ∨ body.IsSilent ∧ body.fields status = [] := by
  cases body with
  | bindTransceiverResp response =>
      obtain ⟨systemId, parameters⟩ := response
      by_cases silent : (!status.isOk && systemId.isEmpty && parameters.isEmpty) = true
      · refine Or.inr ⟨?_, by rw [fields, if_pos silent]⟩
        simp only [Bool.and_eq_true, String.isEmpty_iff, List.isEmpty_iff] at silent
        obtain ⟨⟨_, rfl⟩, rfl⟩ := silent
        exact .bindTransceiverResp
      · exact Or.inl (by rw [fields, if_neg silent]; rfl)
  | submitSmResp messageId =>
      by_cases silent : (!status.isOk && messageId.isEmpty) = true
      · refine Or.inr ⟨?_, by rw [fields, if_pos silent]⟩
        simp only [Bool.and_eq_true, String.isEmpty_iff] at silent
        obtain ⟨_, rfl⟩ := silent
        exact .submitSmResp
      · exact Or.inl (by rw [fields, if_neg silent]; rfl)
  | _ => exact Or.inl rfl

/-- The body has been read from these octets, the body of a frame with this command: they are its fields
with none left out, or it says nothing and there was no octet. -/
structure ReadFrom (id : CommandId) (octets : Octets) (body : Body) : Prop where
  command : body.commandId = id
  genuine : body.IsGenuine
  short : body.shortMessage.length < 256
  complete : Encoding.ofFields (body.fields .ok) = ⟨octets, none⟩ ∨ body.IsSilent ∧ octets = []

theorem readFrom_of_decoder {id : CommandId} {decoder : Decoder Body} {octets : Octets} {body : Body}
    (listed : decoders.lookup id = some decoder) (read : decode decoder octets = (.ok body, [])) :
    body.ReadFrom id octets := by
  obtain ⟨before, after, table, _⟩ := List.lookup_eq_some_iff.mp listed
  have member : (id, decoder) ∈ decoders := by
    rw [table]
    exact List.mem_append_right _ List.mem_cons_self
  have nothing : 0 < 256 := by decide
  simp only [decoders, List.mem_cons, Prod.mk.injEq, List.not_mem_nil, or_false] at member
  rcases member with ⟨rfl, rfl⟩ | ⟨rfl, rfl⟩ | ⟨rfl, rfl⟩ | ⟨rfl, rfl⟩ | ⟨rfl, rfl⟩ | ⟨rfl, rfl⟩ | ⟨rfl, rfl⟩ |
    ⟨rfl, rfl⟩ | ⟨rfl, rfl⟩ | ⟨rfl, rfl⟩ | ⟨rfl, rfl⟩
  · obtain ⟨message, taken, rfl⟩ := decode_map_eq_ok_iff.mp read
    obtain ⟨short, written⟩ := (messageDecoder_restores octets message).mp taken
    exact ⟨rfl, trivial, short, Or.inl written⟩
  · obtain ⟨message, taken, rfl⟩ := decode_map_eq_ok_iff.mp read
    obtain ⟨short, written⟩ := (messageDecoder_restores octets message).mp taken
    exact ⟨rfl, trivial, short, Or.inl written⟩
  · cases read
    exact ⟨rfl, trivial, nothing, Or.inl rfl⟩
  · obtain ⟨request, taken, rfl⟩ := decode_map_eq_ok_iff.mp read
    obtain ⟨_, written⟩ := (bindRequestDecoder_restores octets request).mp taken
    exact ⟨rfl, trivial, nothing, Or.inl written⟩
  · cases read
    exact ⟨rfl, trivial, nothing, Or.inl rfl⟩
  · cases read
    exact ⟨rfl, trivial, nothing, Or.inl rfl⟩
  · obtain ⟨messageId, taken, rfl⟩ := decode_map_eq_ok_iff.mp read
    rcases messageIdDecoder_eq_ok_iff.mp taken with ⟨none, rfl⟩ | written
    · exact ⟨rfl, trivial, nothing, Or.inr ⟨.submitSmResp, none⟩⟩
    · exact ⟨rfl, trivial, nothing, Or.inl written⟩
  · obtain ⟨messageId, taken, rfl⟩ := decode_map_eq_ok_iff.mp read
    rcases messageIdDecoder_eq_ok_iff.mp taken with ⟨none, rfl⟩ | written
    · exact ⟨rfl, trivial, nothing, Or.inr ⟨.deliverSmResp, none⟩⟩
    · exact ⟨rfl, trivial, nothing, Or.inl written⟩
  · cases read
    exact ⟨rfl, trivial, nothing, Or.inl rfl⟩
  · obtain ⟨response, taken, rfl⟩ := decode_map_eq_ok_iff.mp read
    rcases bindResponseDecoder_eq_ok_iff.mp taken with ⟨none, rfl⟩ | written
    · exact ⟨rfl, trivial, nothing, Or.inr ⟨.bindTransceiverResp, none⟩⟩
    · exact ⟨rfl, trivial, nothing, Or.inl written⟩
  · cases read
    exact ⟨rfl, trivial, nothing, Or.inl rfl⟩

theorem ReadFrom.written {id : CommandId} {octets : Octets} {body : Body} (taken : body.ReadFrom id octets)
    (status : CommandStatus) :
    ∃ written, Encoding.ofFields (body.fields status) = ⟨written, none⟩ ∧
      (written = octets ∨
        body.IsSilent ∧ (octets = [] ∧ written = [0] ∨ octets = [0] ∧ written = [])) := by
  rcases body.fields_cases status with same | ⟨silent, omitted⟩
  · rw [same]
    rcases taken.complete with complete | ⟨silent, none⟩
    · exact ⟨octets, complete, Or.inl rfl⟩
    · exact ⟨[0], ofFields_of_silent silent, Or.inr ⟨silent, Or.inl ⟨none, rfl⟩⟩⟩
  · refine ⟨[], by rw [omitted, Encoding.ofFields_nil], ?_⟩
    rcases taken.complete with complete | ⟨_, none⟩
    · rw [ofFields_of_silent silent] at complete
      cases complete
      exact Or.inr ⟨silent, Or.inr ⟨rfl, rfl⟩⟩
    · exact Or.inl none.symm

end Body

namespace Frame

theorem tolerates_of_checkTags {policy : TagPolicy} {body : Body} (checked : checkTags policy body = .ok ()) :
    policy.Tolerates body := by
  rintro rfl parameter member
  rw [checkTags] at checked
  split at checked
  · cases checked
  · rename_i standard
    have found := List.find?_eq_none.mp standard parameter member
    rwa [Bool.not_eq_true, Bool.not_eq_false'] at found

theorem readFrom_of_bodyDecoder {policy : TagPolicy} {header : Header} {octets left : Octets} {frame : Frame}
    (exact : header.length.toNat = Header.size + octets.length)
    (read : (bodyDecoder policy header).decode octets = (.ok frame, left)) :
    ∃ body, frame = header.frame body ∧ body.ReadFrom header.commandId octets ∧ policy.Tolerates body := by
  rw [bodyDecoder] at read
  split at read
  · rename_i unlisted
    obtain ⟨content, middle, taken, built⟩ := Decoder.decode_bind_eq_ok_iff.mp read
    obtain ⟨counted, split⟩ := Decoder.octets_eq_ok_iff.mp taken
    have none : middle = [] := by
      have lengths := congrArg List.length split
      rw [List.length_append, counted, Header.bodyLength] at lengths
      exact List.eq_nil_of_length_eq_zero (by omega)
    rw [none, List.append_nil] at split
    cases built
    have unregistered : Body.isRegistered header.commandId = false := by rw [Body.isRegistered, unlisted]; rfl
    have written : Encoding.ofFields [.ok content] = ⟨octets, Option.none⟩ := by
      rw [split, Encoding.ofFields, Encoding.ofFields_nil, List.append_nil]
    have nothing : 0 < 256 := by decide
    refine ⟨_, rfl, ⟨rfl, ⟨unregistered, ?_⟩, nothing, Or.inl written⟩, ?_⟩
    · rw [← split]
      exact exact
    · rintro - parameter member
      cases member
  · rename_i decoder listed
    obtain ⟨body, middle, taken, rest⟩ := Decoder.decode_bind_eq_ok_iff.mp read
    rw [Decoder.decode_bind_of_ok (Decoder.decode_get middle)] at rest
    cases middle with
    | cons first others => cases rest
    | nil =>
        cases checked : checkTags policy body with
        | error error =>
            rw [checked] at rest
            cases rest
        | ok _ =>
            rw [checked] at rest
            cases rest
            exact ⟨body, rfl, Body.readFrom_of_decoder listed taken, tolerates_of_checkTags checked⟩

theorem readFrom_of_decode {policy : TagPolicy} {octets : Octets} {frame : Frame} {length : Nat}
    (decoded : decode policy octets = .ok (frame, length)) :
    ∃ (header : Header) (content : Octets) (body : Body),
      octets.take length = header.encode ++ content ∧
      header.length.toNat = Header.size + content.length ∧
      Header.size + content.length ≤ Header.largestFrame ∧
      frame = header.frame body ∧ body.ReadFrom header.commandId content ∧ policy.Tolerates body := by
  obtain ⟨checked, read⟩ := decode_eq_ok_iff.mp decoded
  obtain ⟨_, _, _, smallest, largest, whole⟩ := check_eq_ok_iff.mp checked
  obtain ⟨header, found, declared⟩ := Header.decode_of_check checked
  have taken : (octets.take length).length = length := List.length_take_of_le whole
  have first := Header.decode_append (by rw [taken]; exact smallest) (octets.drop length)
  rw [List.take_append_drop, found] at first
  cases started : Header.decoder.decode (octets.take length) with
  | mk result rest =>
      rw [started] at first
      cases first
      have split := Header.encode_of_decode started
      have sizes := congrArg List.length split
      rw [taken, List.length_append, Header.length_encode] at sizes
      have behind : (octets.take length).drop Header.size = rest := by
        rw [split]
        exact List.drop_left' (Header.length_encode header)
      simp only [ofOctets, started, behind, bind, Except.bind] at read
      cases ended : (bodyDecoder policy header).decode rest with
      | mk outcome left =>
          rw [ended] at read
          cases read
          obtain ⟨body, built, readFrom, tolerated⟩ :=
            readFrom_of_bodyDecoder (declared.trans sizes) ended
          refine ⟨header, rest, body, split, declared.trans sizes, ?_, built, readFrom, tolerated⟩
          rw [sizes] at largest
          exact largest

theorem toOctets_eq_ok_iff_encode {frame : Frame} {written : Octets} :
    frame.toOctets = .ok written ↔ frame.encode = ⟨written, none⟩ := by
  cases encoded : frame.encode with
  | mk octets failure =>
      cases failure <;> simp [toOctets, encoded, Encoding.result]

theorem headerFor_frame {header : Header} {body : Body} {length : Nat}
    (command : body.commandId = header.commandId) (declared : header.length.toNat = length) :
    (header.frame body).headerFor length = header := by
  obtain ⟨declaredLength, commandId, status, sequence⟩ := header
  cases declared
  cases command
  rw [headerFor, UInt32.ofNat_toNat]
  rfl

/-- Octets that a frame was read from and octets that it is written to: the same, or those of a response
that says nothing, once with the null octet of an empty text and once without it. -/
inductive Rewrites (frame : Frame) (read : Octets) : Octets → Prop
  | same : Rewrites frame read read
  | gains (silent : frame.body.IsSilent) (bare : read = (frame.headerFor 16).encode) :
      Rewrites frame read ((frame.headerFor 17).encode ++ [0])
  | loses (silent : frame.body.IsSilent) (null : read = (frame.headerFor 17).encode ++ [0]) :
      Rewrites frame read (frame.headerFor 16).encode

theorem rewrites_of_readFrom {header : Header} {content written : Octets} {body : Body}
    (declared : header.length.toNat = Header.size + content.length)
    (readFrom : body.ReadFrom header.commandId content)
    (same : written = content ∨
      body.IsSilent ∧ (content = [] ∧ written = [0] ∨ content = [0] ∧ written = [])) :
    (header.frame body).Rewrites (header.encode ++ content)
      (((header.frame body).headerFor (Header.size + written.length)).encode ++ written) := by
  have back := headerFor_frame readFrom.command declared
  rcases same with rfl | ⟨silent, ⟨rfl, rfl⟩ | ⟨rfl, rfl⟩⟩
  · rw [back]
    exact .same
  · refine .gains silent ?_
    rw [List.append_nil]
    exact congrArg Header.encode back.symm
  · rw [List.append_nil]
    refine .loses silent ?_
    exact congrArg (·.encode ++ [0]) back.symm

/-- An accepted frame is encoded again to the octets that it was read from, unless it is one of those
that the encoder refuses. Only the null octet of a response that says nothing may come or go. -/
theorem encode_decoded {policy : TagPolicy} {octets : Octets} {frame : Frame} {length : Nat}
    (decoded : decode policy octets = .ok (frame, length)) :
    ((∃ error, frame.toOctets = .error error) ↔ frame.body.IsRefused) ∧
    ∀ written, frame.toOctets = .ok written →
      frame.Rewrites (octets.take length) written ∧
      ∀ rest, decode policy (written ++ rest) = .ok (frame, written.length) := by
  obtain ⟨header, content, body, whole, declared, small, rfl, readFrom, tolerated⟩ :=
    readFrom_of_decode decoded
  obtain ⟨again, fields, same⟩ := readFrom.written header.status
  have accepted := Body.validate_eq_ok_iff readFrom.short
  refine ⟨⟨?_, ?_⟩, ?_⟩
  · rintro ⟨error, failed⟩
    refine Classical.byContradiction fun fine => ?_
    have fits : Header.size + again.length ≤ Header.largestFrame := by
      rcases same with rfl | ⟨_, ⟨rfl, rfl⟩ | ⟨rfl, rfl⟩⟩
      · exact small
      · decide
      · decide
    have written : (header.frame body).encode = ⟨_, none⟩ :=
      encode_eq_iff.mpr ⟨accepted.mpr fine, again, fields, fits, rfl⟩
    cases (toOctets_eq_ok_iff_encode.mpr written).symm.trans failed
  · intro refused
    cases encoded : (header.frame body).toOctets with
    | error error => exact ⟨error, rfl⟩
    | ok written =>
        obtain ⟨valid, _⟩ := encode_eq_iff.mp (toOctets_eq_ok_iff_encode.mp encoded)
        exact absurd refused (accepted.mp valid)
  · intro written encoded
    have encodes := toOctets_eq_ok_iff_encode.mp encoded
    refine ⟨?_, decode_encoded readFrom.genuine tolerated encodes⟩
    obtain ⟨_, unique, written', _, rfl⟩ := encode_eq_iff.mp encodes
    cases fields.symm.trans written'
    rw [whole]
    exact rewrites_of_readFrom declared readFrom same

/-- A response to a message that leaves its body out although it reports success. -/
def bareResponse : Octets := [0, 0, 0, 16, 128, 0, 0, 4, 0, 0, 0, 0, 0, 0, 0, 7]

theorem encode_decoded_sample :
    decode .tolerant bareResponse = .ok (⟨.ok, 7, .submitSmResp ""⟩, 16) ∧
    ∃ written, (⟨.ok, 7, .submitSmResp ""⟩ : Frame).toOctets = .ok written ∧ written.length = 17 ∧
      (⟨.ok, 7, .submitSmResp ""⟩ : Frame).Rewrites bareResponse written := by
  have decoded : decode .tolerant bareResponse = .ok (⟨.ok, 7, .submitSmResp ""⟩, 16) := rfl
  have encoded : (⟨.ok, 7, .submitSmResp ""⟩ : Frame).toOctets =
      .ok [0, 0, 0, 17, 128, 0, 0, 4, 0, 0, 0, 0, 0, 0, 0, 7, 0] := rfl
  exact ⟨decoded, _, encoded, rfl, ((encode_decoded decoded).2 _ encoded).1⟩

end Frame

end Smpp
