import Smpp.Codec.Header

/-!
The decoding of frames. A body is decoded within the length that its header declares, so that a bad
body never costs the place of the next frame. What may be left undecided is whether parameters with a
vendor's own tags are tolerated.
-/

namespace Smpp

/-- What becomes of optional parameters whose tags the protocol does not list. -/
inductive TagPolicy
  | tolerant | strict
  deriving DecidableEq, Repr

namespace Body

def bindRequestDecoder : Decoder BindRequest := do
  let systemId ← Decoder.text 16 "system_id"
  let password ← Decoder.text 9 "password"
  let systemType ← Decoder.text 13 "system_type"
  let version ← Decoder.interfaceVersion "interface_version"
  let ton ← Decoder.typeOfNumber "addr_ton"
  let npi ← Decoder.numberingPlan "addr_npi"
  let addressRange ← Decoder.text 41 "address_range"
  pure { systemId, password, systemType, version, ton, npi, addressRange }

def bindResponseDecoder : Decoder BindResponse := do
  if (← get).isEmpty then pure {}
  else
    let systemId ← Decoder.text 16 "system_id"
    let parameters ← Decoder.parameters
    pure { systemId, parameters }

def messageDecoder : Decoder ShortMessage := do
  let serviceType ← Decoder.text 6 "service_type"
  let sourceTon ← Decoder.typeOfNumber "source_addr_ton"
  let sourceNpi ← Decoder.numberingPlan "source_addr_npi"
  let sourceAddress ← Decoder.text 21 "source_addr"
  let destinationTon ← Decoder.typeOfNumber "dest_addr_ton"
  let destinationNpi ← Decoder.numberingPlan "dest_addr_npi"
  let destinationAddress ← Decoder.text 21 "destination_addr"
  let esmClass ← Decoder.octet "esm_class"
  let protocolId ← Decoder.octet "protocol_id"
  let priority ← Decoder.octet "priority_flag"
  let scheduleDeliveryTime ← Decoder.text 17 "schedule_delivery_time"
  let validityPeriod ← Decoder.text 17 "validity_period"
  let registeredDelivery ← Decoder.octet "registered_delivery"
  let replaceIfPresent ← Decoder.octet "replace_if_present_flag"
  let dataCoding ← Decoder.octet "data_coding"
  let defaultMessageId ← Decoder.octet "sm_default_msg_id"
  let length ← Decoder.octet "sm_length"
  let octets ← Decoder.octets length.toNat "short_message"
  let parameters ← Decoder.parameters
  pure {
    serviceType, sourceTon, sourceNpi, sourceAddress, destinationTon, destinationNpi,
    destinationAddress, esmClass := ⟨esmClass⟩, protocolId, priority, scheduleDeliveryTime,
    validityPeriod, registeredDelivery, replaceIfPresent, dataCoding := ⟨dataCoding⟩,
    defaultMessageId, octets, parameters }

def messageIdDecoder : Decoder String := do
  if (← get).isEmpty then pure "" else Decoder.text 65 "message_id"

def decoders : List (CommandId × Decoder Body) :=
  [(.submitSm, submitSm <$> messageDecoder),
   (.deliverSm, deliverSm <$> messageDecoder),
   (.unbind, pure unbind),
   (.bindTransceiver, bindTransceiver <$> bindRequestDecoder),
   (.enquireLink, pure enquireLink),
   (.genericNack, pure genericNack),
   (.submitSmResp, submitSmResp <$> messageIdDecoder),
   (.deliverSmResp, deliverSmResp <$> messageIdDecoder),
   (.unbindResp, pure unbindResp),
   (.bindTransceiverResp, bindTransceiverResp <$> bindResponseDecoder),
   (.enquireLinkResp, pure enquireLinkResp)]

def isRegistered (id : CommandId) : Bool := (decoders.lookup id).isSome

end Body

namespace Frame

def checkTags (policy : TagPolicy) (body : Body) : Except CodecError Unit :=
  match policy with
  | .tolerant => .ok ()
  | .strict =>
      match body.parameters.find? fun parameter => !Parameter.isStandard parameter.tag with
      | some parameter => .error (.unexpectedParameter parameter.tag)
      | none => .ok ()

/-- Decodes the body behind a header. The body of a frame that the session does not speak is kept as
it is; any other has to end where its last field ends. -/
def bodyDecoder (policy : TagPolicy) (header : Header) : Decoder Frame := do
  match Body.decoders.lookup header.commandId with
  | none =>
      let octets ← Decoder.octets header.bodyLength "body"
      pure (header.frame (.unknown header.commandId header.length octets))
  | some decoder =>
      let body ← decoder
      let left ← get
      if !left.isEmpty then
        throw (.lengthMismatch header.bodyLength (header.bodyLength - left.length))
      checkTags policy body
      pure (header.frame body)

/-- Decodes the body of one given command, whatever octets follow. -/
def decoderFor (expected : CommandId) (header : Header) : Decoder Frame := do
  if header.commandId ≠ expected then
    throw (.unexpectedCommand expected header.commandId)
  match Body.decoders.lookup expected with
  | none => throw (.unexpectedCommand expected header.commandId)
  | some decoder => header.frame <$> decoder

def ofOctets (policy : TagPolicy) (octets : Octets) : Except CodecError Frame := do
  let header ← (Header.decoder.decode octets).1
  ((bodyDecoder policy header).decode (octets.drop Header.size)).1

def decode (policy : TagPolicy) (octets : Octets) : Except CodecError (Frame × Nat) := do
  let length ← check octets
  let frame ← ofOctets policy (octets.take length)
  pure (frame, length)

theorem decode_bounds {policy : TagPolicy} {octets : Octets} {frame : Frame} {length : Nat}
    (decoded : decode policy octets = .ok (frame, length)) :
    Header.size ≤ length ∧ length ≤ octets.length := by
  unfold decode at decoded
  cases checked : check octets with
  | error error => simp [checked, bind, Except.bind] at decoded
  | ok found =>
      cases read : ofOctets policy (octets.take found) with
      | error error => simp [checked, read, bind, Except.bind] at decoded
      | ok frame =>
          simp only [checked, read, bind, Except.bind, pure, Except.pure, Except.ok.injEq,
            Prod.mk.injEq] at decoded
          have bounds := check_bounds checked
          omega

def decodeAll (policy : TagPolicy) (octets : Octets) : List (Frame × Nat) × Option CodecError :=
  if octets.isEmpty then ([], none)
  else
    match step : decode policy octets with
    | .error error => ([], some error)
    | .ok (frame, length) =>
        have _bounds := decode_bounds step
        let (others, failure) := decodeAll policy (octets.drop length)
        ((frame, length) :: others, failure)
termination_by octets.length
decreasing_by
  simp only [List.length_drop]
  unfold Header.size at _bounds
  omega

end Frame

end Smpp
