import Mathlib.Algebra.GroupWithZero.Nat
import Mathlib.Data.List.Forall2
import Smpp.Proofs.Codec.Cursor
import Smpp.Proofs.Codec.Stability

/-!
Frames decoded with every access checked. The checked decoding is written out from the octets of the header to
the leftovers of the body, and it is total: no slice is out of range, no length runs below zero, and what the
checks in front have ruled out does not come up again. With that, the octets alone settle how decoding ends,
and decoding again and again cuts a stream into frames until it is used up or refused.
-/

namespace Smpp

def Header.bodyLength? (header : Header) : Option Nat :=
  if size ≤ header.length.toNat then some (header.length.toNat - size) else none

namespace Cursor

variable {Value : Type}

def settle (result : Except CodecError Value) : Cursor Value :=
  match result with
  | .ok value => pure value
  | .error error => throw error

def bindRequest : Cursor BindRequest := do
  let systemId ← text 16 "system_id"
  let password ← text 9 "password"
  let systemType ← text 13 "system_type"
  let version ← listed InterfaceVersion.ofOctet? "unsupported interface version" "interface_version"
  let ton ← listed TypeOfNumber.ofOctet? "invalid type of number" "addr_ton"
  let npi ← listed NumberingPlan.ofOctet? "invalid numbering plan" "addr_npi"
  let addressRange ← text 41 "address_range"
  pure { systemId, password, systemType, version, ton, npi, addressRange }

def bindResponse : Cursor BindResponse := do
  if (← remaining) = 0 then pure {}
  else
    let systemId ← text 16 "system_id"
    let parameters ← parameters
    pure { systemId, parameters }

def message : Cursor ShortMessage := do
  let serviceType ← text 6 "service_type"
  let sourceTon ← listed TypeOfNumber.ofOctet? "invalid type of number" "source_addr_ton"
  let sourceNpi ← listed NumberingPlan.ofOctet? "invalid numbering plan" "source_addr_npi"
  let sourceAddress ← text 21 "source_addr"
  let destinationTon ← listed TypeOfNumber.ofOctet? "invalid type of number" "dest_addr_ton"
  let destinationNpi ← listed NumberingPlan.ofOctet? "invalid numbering plan" "dest_addr_npi"
  let destinationAddress ← text 21 "destination_addr"
  let esmClass ← octet "esm_class"
  let protocolId ← octet "protocol_id"
  let priority ← octet "priority_flag"
  let scheduleDeliveryTime ← text 17 "schedule_delivery_time"
  let validityPeriod ← text 17 "validity_period"
  let registeredDelivery ← octet "registered_delivery"
  let replaceIfPresent ← octet "replace_if_present_flag"
  let dataCoding ← octet "data_coding"
  let defaultMessageId ← octet "sm_default_msg_id"
  let length ← octet "sm_length"
  let octets ← octets length.toNat "short_message"
  let parameters ← parameters
  pure {
    serviceType, sourceTon, sourceNpi, sourceAddress, destinationTon, destinationNpi,
    destinationAddress, esmClass := ⟨esmClass⟩, protocolId, priority, scheduleDeliveryTime,
    validityPeriod, registeredDelivery, replaceIfPresent, dataCoding := ⟨dataCoding⟩,
    defaultMessageId, octets, parameters }

def messageId : Cursor String := do
  if (← remaining) = 0 then pure "" else text 65 "message_id"

def bodies : List (CommandId × Cursor Body) :=
  [(.submitSm, .submitSm <$> message),
   (.deliverSm, .deliverSm <$> message),
   (.unbind, pure .unbind),
   (.bindTransceiver, .bindTransceiver <$> bindRequest),
   (.enquireLink, pure .enquireLink),
   (.genericNack, pure .genericNack),
   (.submitSmResp, .submitSmResp <$> messageId),
   (.deliverSmResp, .deliverSmResp <$> messageId),
   (.unbindResp, pure .unbindResp),
   (.bindTransceiverResp, .bindTransceiverResp <$> bindResponse),
   (.enquireLinkResp, pure .enquireLinkResp)]

def size : Cursor Nat := do
  let whole ← remaining
  require 4 fun _ => .incomplete
  let length ← word32
  settle (Header.checkLength length)
  if whole < length.toNat then throw .incomplete else pure length.toNat

def header : Cursor Header := do
  require 16 fun _ => .incomplete
  let length ← word32
  let commandId ← word32
  let status ← word32
  let sequence ← word32
  settle (Header.checkLength length)
  pure ⟨length, ⟨commandId⟩, ⟨status⟩, sequence⟩

/-- The body behind a header. The cursor that is found for a command looks at the command again before it
starts. -/
def body (policy : TagPolicy) (header : Header) : Cursor Frame := do
  let declared ← present header.bodyLength?
  match bodies.find? fun entry => header.commandId == entry.1 with
  | none =>
      if (← remaining) < declared then never
      else
        let octets ← take declared
        pure (header.frame (.unknown header.commandId header.length octets))
  | some (expected, cursor) =>
      if header.commandId ≠ expected then never
      else
        let body ← cursor
        let left ← remaining
        if 0 < left then throw (.lengthMismatch declared (declared - left))
        settle (Frame.checkTags policy body)
        pure (header.frame body)

/-- The first frame in the octets, with its length. A header that fails after its length was accepted is not
to come. -/
def frame? (policy : TagPolicy) (octets : Octets) : Option (Except CodecError (Frame × Nat)) :=
  (read size octets).bind fun
    | (.error error, _) => some (.error error)
    | (.ok length, _) =>
        (octets.slice? 0 length).bind fun whole =>
        (octets.slice? Header.size length).bind fun content =>
        (read header whole).bind fun
          | (.error _, _) => none
          | (.ok found, _) =>
              (read (body policy found) content).map fun result => result.1.map fun frame => (frame, length)

theorem guards_bindRequest : bindRequest.Guards Body.bindRequestDecoder := by
  refine (guards_text ..).bind fun systemId => ?_
  refine (guards_text ..).bind fun password => ?_
  refine (guards_text ..).bind fun systemType => ?_
  refine (guards_listed ..).bind fun version => ?_
  refine (guards_listed ..).bind fun ton => ?_
  refine (guards_listed ..).bind fun npi => ?_
  refine (guards_text ..).bind fun addressRange => ?_
  exact guards_pure _

theorem guards_bindResponse : bindResponse.Guards Body.bindResponseDecoder := by
  refine Guards.optional ?_ _
  refine (guards_text ..).bind fun systemId => ?_
  refine guards_parameters.bind fun parameters => ?_
  exact guards_pure _

theorem guards_message : message.Guards Body.messageDecoder := by
  refine (guards_text ..).bind fun serviceType => ?_
  refine (guards_listed ..).bind fun sourceTon => ?_
  refine (guards_listed ..).bind fun sourceNpi => ?_
  refine (guards_text ..).bind fun sourceAddress => ?_
  refine (guards_listed ..).bind fun destinationTon => ?_
  refine (guards_listed ..).bind fun destinationNpi => ?_
  refine (guards_text ..).bind fun destinationAddress => ?_
  refine (guards_octet ..).bind fun esmClass => ?_
  refine (guards_octet ..).bind fun protocolId => ?_
  refine (guards_octet ..).bind fun priority => ?_
  refine (guards_text ..).bind fun scheduleDeliveryTime => ?_
  refine (guards_text ..).bind fun validityPeriod => ?_
  refine (guards_octet ..).bind fun registeredDelivery => ?_
  refine (guards_octet ..).bind fun replaceIfPresent => ?_
  refine (guards_octet ..).bind fun dataCoding => ?_
  refine (guards_octet ..).bind fun defaultMessageId => ?_
  refine (guards_octet ..).bind fun length => ?_
  refine (guards_octets ..).bind fun octets => ?_
  refine guards_parameters.bind fun parameters => ?_
  exact guards_pure _

theorem guards_messageId : messageId.Guards Body.messageIdDecoder := (guards_text ..).optional _

theorem guards_bodies :
    List.Forall₂ (fun entry other => entry.1 = other.1 ∧ Guards entry.2 other.2) bodies Body.decoders := by
  unfold bodies Body.decoders
  refine .cons ⟨rfl, guards_message.map _⟩ (.cons ⟨rfl, guards_message.map _⟩ (.cons ⟨rfl, guards_pure _⟩
    (.cons ⟨rfl, guards_bindRequest.map _⟩ (.cons ⟨rfl, guards_pure _⟩ (.cons ⟨rfl, guards_pure _⟩
    (.cons ⟨rfl, guards_messageId.map _⟩ (.cons ⟨rfl, guards_messageId.map _⟩ (.cons ⟨rfl, guards_pure _⟩
    (.cons ⟨rfl, guards_bindResponse.map _⟩ (.cons ⟨rfl, guards_pure _⟩ .nil))))))))))

theorem find?_of_guards {entries : List (CommandId × Cursor Body)} {others : List (CommandId × Decoder Body)}
    (guards : List.Forall₂ (fun entry other => entry.1 = other.1 ∧ Guards entry.2 other.2) entries others)
    (id : CommandId) :
    (entries.find? (fun entry => id == entry.1) = none ∧ others.lookup id = none) ∨
      ∃ cursor decoder, entries.find? (fun entry => id == entry.1) = some (id, cursor) ∧
        others.lookup id = some decoder ∧ Guards cursor decoder := by
  induction guards with
  | nil => exact Or.inl ⟨rfl, rfl⟩
  | @cons entry other _ _ first _ ih =>
      obtain ⟨listed, cursor⟩ := entry
      obtain ⟨same, decoder⟩ := other
      obtain ⟨rfl, guarded⟩ := first
      by_cases here : id = listed
      · subst here
        refine Or.inr ⟨cursor, decoder, ?_, ?_, guarded⟩
        · rw [List.find?_cons_of_pos (by simp)]
        · rw [List.lookup_cons, beq_self_eq_true]
      · rw [List.find?_cons_of_neg (by simpa using here), List.lookup_cons, beq_eq_false_iff_ne.mpr here]
        exact ih

theorem read_settle (result : Except CodecError Value) (octets : Octets) :
    read (settle result) octets = some (result, octets) := by
  cases result <;> rfl

theorem read_size (octets : Octets) : ∃ left, read size octets = some (Frame.check octets, left) := by
  rw [size, read_bind_of_ok (read_remaining octets)]
  match octets with
  | a :: b :: c :: d :: rest =>
      rw [read_bind_of_ok (read_require_of_le (Nat.le_add_left 4 rest.length) _),
        read_bind_of_ok (read_word32 a b c d rest), read_bind, read_settle, Option.bind_some]
      cases accepted : Header.checkLength (Octets.toWord32 a b c d) with
      | error error => exact ⟨rest, by simp only [Frame.check, accepted]⟩
      | ok _ =>
          have waits : ((a :: b :: c :: d :: rest).take (Octets.toWord32 a b c d).toNat).length <
                (Octets.toWord32 a b c d).toNat ↔
              (a :: b :: c :: d :: rest).length < (Octets.toWord32 a b c d).toNat := by
            rw [List.length_take]
            omega
          refine ⟨rest, ?_⟩
          simp only [Frame.check, accepted, waits]
          split <;> rfl
  | [] | [_] | [_, _] | [_, _, _] => exact ⟨_, rfl⟩

theorem read_header (octets : Octets) : read header octets = some (Header.decoder.decode octets) := by
  by_cases present : 16 ≤ octets.length
  · match octets, present with
    | a₁ :: a₂ :: a₃ :: a₄ :: b₁ :: b₂ :: b₃ :: b₄ :: c₁ :: c₂ :: c₃ :: c₄ ::
        d₁ :: d₂ :: d₃ :: d₄ :: rest, present =>
        rw [header, read_bind_of_ok (read_require_of_le present _), read_bind_of_ok (read_word32 ..),
          read_bind_of_ok (read_word32 ..), read_bind_of_ok (read_word32 ..), read_bind_of_ok (read_word32 ..),
          read_bind, read_settle, Option.bind_some]
        cases accepted : Header.checkLength (Octets.toWord32 a₁ a₂ a₃ a₄) <;>
          simp only [Decoder.decode, ExceptT.run, Header.decoder, accepted, read_pure]
  · rw [header, read_bind_of_short (Nat.lt_of_not_le present)]
    unfold Decoder.decode ExceptT.run Header.decoder
    split
    · simp at present
    · rfl

theorem contained_of_checkTags {policy : TagPolicy} {body : Body} {error : CodecError}
    (failed : Frame.checkTags policy body = .error error) : error.IsContained := by
  unfold Frame.checkTags at failed
  split at failed
  · cases failed
  · split at failed
    · cases failed
      exact ⟨nofun, rfl⟩
    · cases failed

theorem read_body {policy : TagPolicy} {header : Header} {octets : Octets}
    (exact : header.length.toNat = Header.size + octets.length) :
    read (body policy header) octets = some ((Frame.bodyDecoder policy header).decode octets) := by
  have covered : Header.size ≤ header.length.toNat := by omega
  have counted : header.bodyLength = octets.length := by
    rw [Header.bodyLength]
    omega
  have declared : read (present header.bodyLength?) octets = some (.ok octets.length, octets) := by
    rw [Header.bodyLength?, if_pos covered, ← Header.bodyLength, counted]
    rfl
  rw [body, read_bind_of_ok declared, Frame.bodyDecoder, counted]
  obtain ⟨unlisted, unknown⟩ | ⟨cursor, decoder, listed, known, guards⟩ :=
    find?_of_guards guards_bodies header.commandId
  · rw [unlisted, unknown]
    have content : (Decoder.octets octets.length "body").decode octets = (.ok octets, []) :=
      Decoder.octets_eq_ok_iff.mpr ⟨rfl, (List.append_nil octets).symm⟩
    dsimp only
    rw [read_bind_of_ok (read_remaining octets), if_neg (Nat.lt_irrefl _), read_bind_of_ok (read_take (Nat.le_refl _)),
      Decoder.decode_bind_of_ok content, List.take_length, List.drop_length]
    rfl
  · rw [listed, known]
    dsimp only
    rw [if_neg (not_not_intro rfl), read_bind, guards.reads, Option.bind_some, Decoder.decode_bind]
    rcases decoder.decode octets with ⟨error | found, left⟩
    · rfl
    · dsimp only
      rw [read_bind_of_ok (read_remaining left), Decoder.decode_bind_of_ok (Decoder.decode_get left)]
      cases left with
      | cons first rest => rfl
      | nil =>
          change read (settle (Frame.checkTags policy found) >>= fun _ => pure (header.frame found)) [] = _
          rw [read_bind, read_settle, Option.bind_some]
          cases Frame.checkTags policy found <;> rfl

theorem contained_of_bodyDecoder {policy : TagPolicy} {header : Header} {octets left : Octets} {error : CodecError}
    (failed : (Frame.bodyDecoder policy header).decode octets = (.error error, left)) : error.IsContained := by
  rw [Frame.bodyDecoder] at failed
  obtain ⟨-, unknown⟩ | ⟨cursor, decoder, -, known, guards⟩ := find?_of_guards guards_bodies header.commandId
  · rw [unknown] at failed
    exact ((guards_octets _ _).bind fun content => guards_pure _).contained _ _ _ failed
  · rw [known] at failed
    dsimp only at failed
    rw [Decoder.decode_bind] at failed
    rcases taken : decoder.decode octets with ⟨cause | found, middle⟩
    · rw [taken] at failed
      cases failed
      exact guards.contained _ _ _ taken
    · rw [taken] at failed
      dsimp only at failed
      rw [Decoder.decode_bind_of_ok (Decoder.decode_get middle)] at failed
      cases middle with
      | cons first rest =>
          cases failed
          exact ⟨nofun, rfl⟩
      | nil =>
          cases checked : Frame.checkTags policy found with
          | ok _ =>
              rw [checked] at failed
              cases failed
          | error cause =>
              rw [checked] at failed
              cases failed
              exact contained_of_checkTags checked

end Cursor

namespace Frame

variable {policy : TagPolicy} {octets other : Octets} {length : Nat}

theorem check_take (checked : check octets = .ok length) : check (octets.take length) = .ok length := by
  obtain ⟨word, declared, same, smallest, largest, whole⟩ := check_eq_ok_iff.mp checked
  refine check_eq_ok_iff.mpr ⟨word, ?_, same, smallest, largest, ?_⟩
  · unfold Header.size at smallest
    obtain ⟨more, rfl⟩ := Nat.exists_eq_add_of_le' smallest
    unfold declared? at declared
    split at declared
    · exact declared
    · cases declared
  · exact Nat.le_of_eq (List.length_take_of_le whole).symm

theorem decode_of_take_eq (checked : check octets = .ok length) (same : other.take length = octets.take length) :
    decode policy other = decode policy octets := by
  have front := check_take checked
  rw [← List.take_append_drop length octets, ← List.take_append_drop length other, same, decode_append front,
    decode_append front]

theorem ofOctets_of_check (policy : TagPolicy) (checked : check octets = .ok length) :
    ∃ header left, Header.decoder.decode (octets.take length) = (.ok header, left) ∧ header.length.toNat = length ∧
      ofOctets policy (octets.take length) =
        ((bodyDecoder policy header).decode ((octets.take length).drop Header.size)).1 := by
  obtain ⟨header, found, declared⟩ := Header.decode_of_check (check_take checked)
  rcases started : Header.decoder.decode (octets.take length) with ⟨result, left⟩
  rw [started] at found
  cases found
  refine ⟨header, left, rfl, declared, ?_⟩
  rw [ofOctets, started]
  rfl

theorem contained_of_decode {error : CodecError} (checked : check octets = .ok length)
    (failed : decode policy octets = .error error) : error.IsContained := by
  obtain ⟨header, -, -, -, opened⟩ := ofOctets_of_check policy checked
  rw [decode_of_check checked, opened] at failed
  rcases ended : (bodyDecoder policy header).decode ((octets.take length).drop Header.size) with
    ⟨cause | frame, left⟩
  · rw [ended] at failed
    cases failed
    exact Cursor.contained_of_bodyDecoder ended
  · rw [ended] at failed
    cases failed

theorem frame?_eq_decode (policy : TagPolicy) (octets : Octets) :
    Cursor.frame? policy octets = some (decode policy octets) := by
  obtain ⟨rest, sized⟩ := Cursor.read_size octets
  rw [Cursor.frame?, sized, Option.bind_some]
  cases checked : check octets with
  | error error => rw [decode, checked]; rfl
  | ok length =>
      have bounds := check_bounds checked
      obtain ⟨header, left, started, declared, opened⟩ := ofOctets_of_check policy checked
      have whole : octets.slice? 0 length = some (octets.take length) := by
        rw [Octets.slice?, if_pos ⟨Nat.zero_le _, bounds.2⟩, List.drop_zero]
      have content : octets.slice? Header.size length = some ((octets.take length).drop Header.size) := by
        rw [Octets.slice?, if_pos bounds]
      have exact : header.length.toNat = Header.size + ((octets.take length).drop Header.size).length := by
        rw [List.length_drop, List.length_take]
        omega
      dsimp only
      rw [whole, Option.bind_some, content, Option.bind_some, Cursor.read_header, started, Option.bind_some]
      dsimp only
      rw [Cursor.read_body exact, Option.map_some, decode_of_check checked, opened]

def IsOutside (length : UInt32) : Prop := length.toNat < 16 ∨ 65536 < length.toNat

theorem declared?_eq_none_iff : declared? octets = none ↔ octets.length < 4 := by
  unfold declared?
  split
  · simp only [reduceCtorEq, List.length_cons, false_iff]
    omega
  · rename_i short
    simp only [true_iff]
    match octets, short with
    | [], _ | [_], _ | [_, _], _ | [_, _, _], _ => simp
    | a :: b :: c :: d :: rest, short => exact absurd rfl (short a b c d rest)

theorem decode_of_refused {error : CodecError} (policy : TagPolicy) (refused : check octets = .error error) :
    decode policy octets = .error error := by
  rw [decode, refused]
  rfl

theorem decode_eq_error_iff {error : CodecError} (apart : ¬ error.IsContained) :
    decode policy octets = .error error ↔ check octets = .error error := by
  constructor
  · intro failed
    cases checked : check octets with
    | ok length => exact absurd (contained_of_decode checked failed) apart
    | error cause =>
        rw [decode_of_refused policy checked] at failed
        cases failed
        rfl
  · exact decode_of_refused policy

theorem decode_eq_incomplete_iff :
    decode policy octets = .error .incomplete ↔
      octets.length < 4 ∨ ∃ word, declared? octets = some word ∧ ¬ IsOutside word ∧ octets.length < word.toNat := by
  have apart : ¬ CodecError.incomplete.IsContained := fun contained => contained.1 rfl
  rw [decode_eq_error_iff apart, check_eq_incomplete_iff, ← declared?_eq_none_iff]
  unfold IsOutside Header.size Header.largestFrame
  cases declared? octets with
  | none => simp
  | some word =>
      simp only [Option.some.injEq, forall_eq', reduceCtorEq, false_or, exists_eq_left']
      omega

theorem decode_eq_invalidLength_iff {word smallest largest : UInt32} :
    decode policy octets = .error (.invalidLength word smallest largest) ↔
      declared? octets = some word ∧ smallest = 16 ∧ largest = 65536 ∧ IsOutside word := by
  have known : CodecError.invalidLength word smallest largest ≠ .incomplete := nofun
  have apart : ¬ (CodecError.invalidLength word smallest largest).IsContained := fun contained => nomatch contained.2
  rw [decode_eq_error_iff apart, check_eq_error_iff known]
  constructor
  · rintro ⟨length, declared, same, outside⟩
    cases same
    exact ⟨declared, rfl, rfl, outside⟩
  · rintro ⟨declared, rfl, rfl, outside⟩
    exact ⟨word, declared, rfl, outside⟩

theorem decode_append_of_decided (decided : decode policy octets ≠ .error .incomplete) (rest : Octets) :
    decode policy (octets ++ rest) = decode policy octets := by
  cases checked : check octets with
  | ok length => exact decode_append checked rest
  | error error =>
      have refused := decode_of_refused policy checked
      have known : error ≠ .incomplete := by
        rintro rfl
        exact decided refused
      obtain ⟨word, declared, rfl, outside⟩ := (check_eq_error_iff known).mp checked
      rw [refused, decode_eq_invalidLength_iff]
      exact ⟨declared?_append declared rest, rfl, rfl, outside⟩

/-- What decoding does with octets that begin with a whole frame of this length: it gives the frame, or complains
of what is in it; and nothing else has a say. -/
structure Decides (policy : TagPolicy) (octets : Octets) (length : Nat) : Prop where
  concludes : (∃ frame, decode policy octets = .ok (frame, length)) ∨
    ∃ error, decode policy octets = .error error ∧ error.IsContained ∧ error.status ≠ .ok
  alone : ∀ other, other.take length = octets.take length → decode policy other = decode policy octets

theorem decides_of_check (policy : TagPolicy) (checked : check octets = .ok length) : Decides policy octets length where
  concludes := by
    cases decoded : decode policy octets with
    | error error => exact Or.inr ⟨error, rfl, contained_of_decode checked decoded, error.status_ne_ok⟩
    | ok found =>
        obtain ⟨frame, consumed⟩ := found
        have same := (decode_eq_ok_iff.mp decoded).1
        rw [checked] at same
        cases same
        exact Or.inl ⟨frame, rfl⟩
  alone _ same := decode_of_take_eq checked same

inductive Yields (policy : TagPolicy) : Octets → List (Frame × Nat) → Octets → Prop
  | nothing (octets : Octets) : Yields policy octets [] octets
  | next {octets left : Octets} {frame : Frame} {length : Nat} {frames : List (Frame × Nat)}
      (decoded : decode policy octets = .ok (frame, length)) (others : Yields policy (octets.drop length) frames left) :
      Yields policy octets ((frame, length) :: frames) left

variable {frames : List (Frame × Nat)} {left : Octets}

theorem Yields.consumes (yields : Yields policy octets frames left) :
    (∀ entry ∈ frames, 16 ≤ entry.2) ∧ (frames.map (·.2)).sum + left.length = octets.length := by
  induction yields with
  | nothing octets =>
      refine ⟨?_, Nat.zero_add _⟩
      intro entry member
      cases member
  | next decoded others ih =>
      have bounds := decode_bounds decoded
      obtain ⟨each, total⟩ := ih
      refine ⟨?_, ?_⟩
      · intro entry member
        obtain rfl | member := List.mem_cons.mp member
        · exact bounds.1
        · exact each entry member
      · rw [List.length_drop] at total
        rw [List.map_cons, List.sum_cons]
        omega

/-- Decoding again and again comes to an end: all octets are used up, or those that are left are refused. -/
theorem yields_decodeAll (policy : TagPolicy) (octets : Octets) :
    ∃ left, Yields policy octets (decodeAll policy octets).1 left ∧
      match (decodeAll policy octets).2 with
      | none => left = []
      | some error => left ≠ [] ∧ decode policy left = .error error := by
  fun_induction decodeAll policy octets with
  | case1 octets empty => exact ⟨octets, .nothing octets, List.isEmpty_iff.mp empty⟩
  | case2 octets present error refused =>
      exact ⟨octets, .nothing octets, fun empty => present (List.isEmpty_iff.mpr empty), refused⟩
  | case3 octets present frame length decoded bounds others failure rest ih =>
      obtain ⟨left, yields, ended⟩ := ih
      rw [rest] at yields ended
      exact ⟨left, .next decoded yields, ended⟩

/-- How the octets alone settle what decoding gives. -/
structure Settles (policy : TagPolicy) (octets : Octets) : Prop where
  inside : Cursor.frame? policy octets = some (decode policy octets)
  waits : decode policy octets = .error .incomplete ↔
    octets.length < 4 ∨ ∃ word, declared? octets = some word ∧ ¬ IsOutside word ∧ octets.length < word.toNat
  loses : (∃ word smallest largest, decode policy octets = .error (.invalidLength word smallest largest)) ↔
    ∃ word, declared? octets = some word ∧ IsOutside word
  desyncs : ∀ error, decode policy octets = .error error → error.isDesync = true →
    ∃ word, declared? octets = some word ∧ error = .invalidLength word 16 65536
  decides : ∀ word, declared? octets = some word → ¬ IsOutside word → word.toNat ≤ octets.length →
    Decides policy octets word.toNat
  stays : decode policy octets ≠ .error .incomplete → ∀ rest, decode policy (octets ++ rest) = decode policy octets
  consumes : ∀ frames left, Yields policy octets frames left →
    (∀ entry ∈ frames, 16 ≤ entry.2) ∧ (frames.map (·.2)).sum + left.length = octets.length
  ends : ∃ left, Yields policy octets (decodeAll policy octets).1 left ∧
    match (decodeAll policy octets).2 with
    | none => left = []
    | some error => left ≠ [] ∧ decode policy left = .error error

theorem decode_settles (policy : TagPolicy) (octets : Octets) : Settles policy octets where
  inside := frame?_eq_decode policy octets
  waits := decode_eq_incomplete_iff
  loses := by
    constructor
    · rintro ⟨word, smallest, largest, refused⟩
      obtain ⟨declared, -, -, outside⟩ := decode_eq_invalidLength_iff.mp refused
      exact ⟨word, declared, outside⟩
    · rintro ⟨word, declared, outside⟩
      exact ⟨word, 16, 65536, decode_eq_invalidLength_iff.mpr ⟨declared, rfl, rfl, outside⟩⟩
  desyncs := by
    intro error refused desync
    obtain ⟨word, smallest, largest, rfl⟩ := CodecError.isDesync_iff.mp desync
    obtain ⟨declared, rfl, rfl, -⟩ := decode_eq_invalidLength_iff.mp refused
    exact ⟨word, declared, rfl⟩
  decides := by
    intro word declared inside whole
    have bounds : Header.size ≤ word.toNat ∧ word.toNat ≤ Header.largestFrame := by
      unfold IsOutside at inside
      unfold Header.size Header.largestFrame
      omega
    exact decides_of_check policy (check_eq_ok_iff.mpr ⟨word, declared, rfl, bounds.1, bounds.2, whole⟩)
  stays := decode_append_of_decided
  consumes _ _ yields := yields.consumes
  ends := yields_decodeAll policy octets

end Frame

end Smpp
