import Smpp.Codec.Decode
import Smpp.Codec.Encode
import Smpp.Proofs.Codec.Fields

/-!
Body decoders and the fields of bodies. The decoder of a body accepts exactly what the fields of the
body write; the only bodies that it never gives are messages too long for their length octet.
-/

namespace Smpp

namespace Decoder

variable {Part Whole : Type} {fields : Whole → List (Except CodecError Octets)} {fits : Whole → Prop}

/-- A decoder that accepts exactly what the fields of its value write, up to the end of the octets,
and gives no value but those that fit. -/
def Restores (decoder : Decoder Whole) (fields : Whole → List (Except CodecError Octets))
    (fits : Whole → Prop) : Prop :=
  ∀ octets whole, decode decoder octets = (.ok whole, []) ↔
    fits whole ∧ Encoding.ofFields (fields whole) = ⟨octets, none⟩

theorem restores_pure {built : Whole} (exact : ∀ whole, built = whole ↔ fits whole) :
    (pure built : Decoder Whole).Restores (fun _ => []) fits := by
  intro octets whole
  rw [decode_pure, ← exact whole]
  simp [eq_comm]

theorem restores_bind {first : Decoder Part} {next : Part → Decoder Whole}
    {write : Part → Except CodecError Octets} (part : Whole → Part) (mirrors : first.Mirrors write)
    (others : ∀ found, (next found).Restores fields fun whole => part whole = found ∧ fits whole) :
    (first >>= next).Restores (fun whole => write (part whole) :: fields whole) fits := by
  intro octets whole
  rw [decode_bind_eq_ok_iff, Encoding.ofFields_cons_eq_iff]
  constructor
  · rintro ⟨found, middle, started, rest⟩
    obtain ⟨written, wrote, split⟩ := (mirrors _ _ _).mp started
    obtain ⟨⟨rfl, fit⟩, tail⟩ := (others _ _ _).mp rest
    exact ⟨fit, written, middle, wrote, tail, split⟩
  · rintro ⟨fit, written, middle, wrote, tail, split⟩
    exact ⟨part whole, middle, (mirrors _ _ _).mpr ⟨written, wrote, split⟩,
      (others _ _ _).mpr ⟨⟨rfl, fit⟩, tail⟩⟩

theorem restores_bind_counted {next : Octets → Decoder Whole} (part : Whole → Octets)
    (lengthField field : String) (short : ∀ whole, fits whole → (part whole).length < 256)
    (others : ∀ found, found.length < 256 →
      (next found).Restores fields fun whole => part whole = found ∧ fits whole) :
    (octet lengthField >>= fun length => Decoder.octets length.toNat field >>= next).Restores
      (fun whole => Field.octet (UInt8.ofNat (part whole).length) :: .ok (part whole) :: fields whole)
      fits := by
  intro octets whole
  simp only [decode_bind_eq_ok_iff, Encoding.ofFields_cons_eq_iff, octets_eq_ok_iff, Except.ok.injEq]
  constructor
  · rintro ⟨length, behind, counted, found, middle, ⟨exact, rfl⟩, rest⟩
    have bound := length.toNat_lt
    obtain ⟨⟨rfl, fit⟩, tail⟩ := (others found (by omega) _ _).mp rest
    obtain ⟨written, wrote, split⟩ := (octet_mirrors _ _ _ _).mp counted
    rw [← UInt8.ofNat_toNat (x := length), ← exact] at wrote
    exact ⟨fit, written, _, wrote, ⟨_, middle, rfl, tail, rfl⟩, split⟩
  · rintro ⟨fit, written, _, wrote, ⟨_, middle, rfl, tail, rfl⟩, split⟩
    have bound := short whole fit
    refine ⟨_, _, (octet_mirrors _ _ _ _).mpr ⟨written, wrote, split⟩, part whole, middle, ?_, ?_⟩
    · exact ⟨(UInt8.toNat_ofNat_of_lt' bound).symm, rfl⟩
    · exact (others _ bound _ _).mpr ⟨⟨rfl, fit⟩, tail⟩

theorem restores_bind_parameters {next : List Parameter → Decoder Whole}
    (part : Whole → List Parameter)
    (others : ∀ found, (next found).Restores (fun _ => []) fun whole => part whole = found ∧ fits whole) :
    (parameters >>= next).Restores (fun whole => (part whole).map Field.parameter) fits := by
  intro octets whole
  simp only [decode_bind_eq_ok_iff, parameters_eq_ok_iff]
  constructor
  · rintro ⟨found, _, ⟨rfl, written⟩, rest⟩
    obtain ⟨⟨rfl, fit⟩, _⟩ := (others found _ _).mp rest
    exact ⟨fit, written⟩
  · rintro ⟨fit, written⟩
    exact ⟨part whole, [], ⟨rfl, written⟩, (others _ _ _).mpr ⟨⟨rfl, fit⟩, rfl⟩⟩

theorem Mirrors.restores {decoder : Decoder Whole} {write : Whole → Except CodecError Octets}
    (mirrors : decoder.Mirrors write) :
    decoder.Restores (fun whole => [write whole]) fun _ => True := by
  intro octets whole
  rw [mirrors octets whole []]
  simp [Encoding.ofFields_cons_eq_iff]

theorem optional_eq_ok_iff {decoder : Decoder Whole} {absent whole : Whole} {octets : Octets}
    (written : Whole → List (Except CodecError Octets)) (restores : decoder.Restores written fun _ => True)
    (present : ∀ whole, Encoding.ofFields (written whole) ≠ ⟨[], none⟩) :
    decode (get >>= fun left => if left.isEmpty then pure absent else decoder) octets =
        (.ok whole, []) ↔
      (octets = [] ∧ whole = absent) ∨ Encoding.ofFields (written whole) = ⟨octets, none⟩ := by
  have read := restores octets whole
  rw [true_and] at read
  rw [decode_bind_of_ok (decode_get octets), ← read]
  cases octets with
  | nil =>
      have refused : decode decoder [] ≠ (.ok whole, []) :=
        fun read => present whole ((restores [] whole).mp read).2
      simp [refused, eq_comm]
  | cons first rest => simp

theorem decode_map_of_ok {decoder : Decoder Part} {octets left : Octets} {found : Part}
    (make : Part → Whole) (read : decode decoder octets = (.ok found, left)) :
    decode (make <$> decoder) octets = (.ok (make found), left) := by
  rw [map_eq_pure_bind, decode_bind_of_ok read, decode_pure]

end Decoder

namespace Body

open Decoder

theorem bindRequestDecoder_restores :
    bindRequestDecoder.Restores (fun request => bindFields request) fun _ => True := by
  unfold bindFields bindRequestDecoder
  refine restores_bind BindRequest.systemId (text_mirrors _ _) fun systemId => ?_
  refine restores_bind BindRequest.password (text_mirrors _ _) fun password => ?_
  refine restores_bind BindRequest.systemType (text_mirrors _ _) fun systemType => ?_
  refine restores_bind BindRequest.version (interfaceVersion_mirrors _) fun version => ?_
  refine restores_bind BindRequest.ton (typeOfNumber_mirrors _) fun ton => ?_
  refine restores_bind BindRequest.npi (numberingPlan_mirrors _) fun npi => ?_
  refine restores_bind BindRequest.addressRange (text_mirrors _ _) fun addressRange => ?_
  refine restores_pure fun request => ⟨?_, ?_⟩
  · rintro rfl
    simp
  · rintro ⟨rfl, rfl, rfl, rfl, rfl, rfl, rfl, _⟩
    rfl

theorem messageDecoder_restores :
    messageDecoder.Restores (fun message => messageFields message)
      fun message => message.octets.length < 256 := by
  unfold messageFields messageDecoder
  refine restores_bind ShortMessage.serviceType (text_mirrors _ _) fun serviceType => ?_
  refine restores_bind ShortMessage.sourceTon (typeOfNumber_mirrors _) fun sourceTon => ?_
  refine restores_bind ShortMessage.sourceNpi (numberingPlan_mirrors _) fun sourceNpi => ?_
  refine restores_bind ShortMessage.sourceAddress (text_mirrors _ _) fun sourceAddress => ?_
  refine restores_bind ShortMessage.destinationTon (typeOfNumber_mirrors _) fun destinationTon => ?_
  refine restores_bind ShortMessage.destinationNpi (numberingPlan_mirrors _) fun destinationNpi => ?_
  refine restores_bind ShortMessage.destinationAddress (text_mirrors _ _) fun destination => ?_
  refine restores_bind (EsmClass.octet ∘ ShortMessage.esmClass) (octet_mirrors _) fun esmClass => ?_
  refine restores_bind ShortMessage.protocolId (octet_mirrors _) fun protocolId => ?_
  refine restores_bind ShortMessage.priority (octet_mirrors _) fun priority => ?_
  refine restores_bind ShortMessage.scheduleDeliveryTime (text_mirrors _ _) fun schedule => ?_
  refine restores_bind ShortMessage.validityPeriod (text_mirrors _ _) fun validity => ?_
  refine restores_bind ShortMessage.registeredDelivery (octet_mirrors _) fun registered => ?_
  refine restores_bind ShortMessage.replaceIfPresent (octet_mirrors _) fun replace => ?_
  refine restores_bind (DataCoding.octet ∘ ShortMessage.dataCoding) (octet_mirrors _) fun dataCoding => ?_
  refine restores_bind ShortMessage.defaultMessageId (octet_mirrors _) fun defaultId => ?_
  refine restores_bind_counted ShortMessage.octets _ _ (by grind) fun octets short => ?_
  refine restores_bind_parameters ShortMessage.parameters fun parameters => ?_
  refine restores_pure fun message => ⟨?_, ?_⟩
  · rintro rfl
    simpa using short
  · rintro ⟨rfl, rfl, rfl, rfl, rfl, rfl, rfl, rfl, rfl, rfl, rfl, rfl, rfl, rfl, rfl, rfl, rfl, rfl, _⟩
    rfl

theorem ofFields_text_ne_nil (value field : String) (largest : Nat)
    (fields : List (Except CodecError Octets)) :
    Encoding.ofFields (Field.text value largest field :: fields) ≠ ⟨[], none⟩ := by
  intro written
  obtain ⟨first, others, wrote, _, whole⟩ := Encoding.ofFields_cons_eq_iff.mp written
  obtain ⟨_, _, rfl⟩ := text_eq_ok_iff.mp wrote
  simp at whole

theorem bindResponseDecoder_eq_ok_iff {octets : Octets} {response : BindResponse} :
    decode bindResponseDecoder octets = (.ok response, []) ↔
      (octets = [] ∧ response = {}) ∨
        Encoding.ofFields (Field.text response.systemId 16 "system_id" ::
          response.parameters.map Field.parameter) = ⟨octets, none⟩ := by
  refine optional_eq_ok_iff (fun response : BindResponse =>
    Field.text response.systemId 16 "system_id" :: response.parameters.map Field.parameter) ?_
    fun _ => ofFields_text_ne_nil _ _ _ _
  refine restores_bind BindResponse.systemId (text_mirrors _ _) fun systemId => ?_
  refine restores_bind_parameters BindResponse.parameters fun parameters => ?_
  refine restores_pure fun response => ⟨?_, ?_⟩
  · rintro rfl
    simp
  · rintro ⟨rfl, rfl, _⟩
    rfl

theorem messageIdDecoder_eq_ok_iff {octets : Octets} {messageId : String} :
    decode messageIdDecoder octets = (.ok messageId, []) ↔
      (octets = [] ∧ messageId = "") ∨
        Encoding.ofFields [Field.text messageId 65 "message_id"] = ⟨octets, none⟩ :=
  optional_eq_ok_iff _ (text_mirrors _ _).restores fun _ => ofFields_text_ne_nil _ _ _ _

/-- A body that the session speaks is read back from its own fields. -/
theorem decoder_of_fields {body : Body} {status : CommandStatus} {octets : Octets}
    (valid : body.validate = .ok ()) (spoken : ∀ id length octets, body ≠ unknown id length octets)
    (written : Encoding.ofFields (body.fields status) = ⟨octets, none⟩) :
    ∃ decoder, decoders.lookup body.commandId = some decoder ∧
      decode decoder octets = (.ok body, []) := by
  cases body with
  | bindTransceiver request =>
      refine ⟨_, rfl, decode_map_of_ok _ ?_⟩
      exact (bindRequestDecoder_restores octets request).mpr ⟨trivial, written⟩
  | bindTransceiverResp response =>
      refine ⟨_, rfl, decode_map_of_ok _ (bindResponseDecoder_eq_ok_iff.mpr ?_)⟩
      simp only [fields] at written
      split at written
      · rename_i silent
        simp only [Encoding.ofFields_nil, Encoding.mk.injEq, and_true] at written
        simp only [Bool.and_eq_true, String.isEmpty_iff, List.isEmpty_iff] at silent
        obtain ⟨⟨_, noId⟩, noParameters⟩ := silent
        cases response
        cases noId
        cases noParameters
        exact Or.inl ⟨written.symm, rfl⟩
      · exact Or.inr written
  | submitSm message =>
      refine ⟨_, rfl, decode_map_of_ok _ ?_⟩
      refine (messageDecoder_restores octets message).mpr ⟨?_, written⟩
      simp only [validate, validate.checkLength, longestMessage] at valid
      grind
  | deliverSm message =>
      refine ⟨_, rfl, decode_map_of_ok _ ?_⟩
      refine (messageDecoder_restores octets message).mpr ⟨?_, written⟩
      simp only [validate, validate.checkLength, longestMessage] at valid
      grind
  | submitSmResp messageId =>
      refine ⟨_, rfl, decode_map_of_ok _ (messageIdDecoder_eq_ok_iff.mpr ?_)⟩
      simp only [fields] at written
      split at written
      · rename_i silent
        simp only [Encoding.ofFields_nil, Encoding.mk.injEq, and_true] at written
        simp only [Bool.and_eq_true, String.isEmpty_iff] at silent
        exact Or.inl ⟨written.symm, silent.2⟩
      · exact Or.inr written
  | deliverSmResp messageId =>
      exact ⟨_, rfl, decode_map_of_ok _ (messageIdDecoder_eq_ok_iff.mpr (Or.inr written))⟩
  | enquireLink | enquireLinkResp | unbind | unbindResp | genericNack =>
      refine ⟨_, rfl, ?_⟩
      cases written
      rfl
  | unknown id length octets => exact absurd rfl (spoken id length octets)

end Body

end Smpp
