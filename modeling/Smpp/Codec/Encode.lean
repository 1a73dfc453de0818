import Smpp.Codec.Encoding
import Smpp.Codec.Header

/-!
The encoding of frames. What is wrong with the values as such is found before anything is written; a
field that does not fit is found when its turn comes.
-/

namespace Smpp

namespace Body

def longestMessage : Nat := 254

def validate : Body → Except CodecError Unit
  | bindTransceiver request =>
      if request.systemId.isEmpty then .error (.missingField "system_id") else .ok ()
  | submitSm message =>
      if message.destinationAddress.isEmpty then .error (.missingField "destination_addr")
      else checkLength message
  | deliverSm message =>
      if message.destinationAddress.isEmpty then .error (.missingField "destination_addr")
      else if !message.octets.isEmpty &&
          (Parameter.find? Parameter.messagePayload message.parameters).isSome then
        .error (.invalidField "short_message" "must be empty when message_payload is present")
      else checkLength message
  | _ => .ok ()
where
  checkLength (message : ShortMessage) : Except CodecError Unit :=
    if longestMessage < message.octets.length then
      .error (.fieldTooLong "short_message" longestMessage message.octets.length)
    else .ok ()

def bindFields (request : BindRequest) : List (Except CodecError Octets) :=
  [Field.text request.systemId 16 "system_id",
   Field.text request.password 9 "password",
   Field.text request.systemType 13 "system_type",
   Field.octet request.version.toOctet,
   Field.octet request.ton.toOctet,
   Field.octet request.npi.toOctet,
   Field.text request.addressRange 41 "address_range"]

def messageFields (message : ShortMessage) : List (Except CodecError Octets) :=
  [Field.text message.serviceType 6 "service_type",
   Field.octet message.sourceTon.toOctet,
   Field.octet message.sourceNpi.toOctet,
   Field.text message.sourceAddress 21 "source_addr",
   Field.octet message.destinationTon.toOctet,
   Field.octet message.destinationNpi.toOctet,
   Field.text message.destinationAddress 21 "destination_addr",
   Field.octet message.esmClass.octet,
   Field.octet message.protocolId,
   Field.octet message.priority,
   Field.text message.scheduleDeliveryTime 17 "schedule_delivery_time",
   Field.text message.validityPeriod 17 "validity_period",
   Field.octet message.registeredDelivery,
   Field.octet message.replaceIfPresent,
   Field.octet message.dataCoding.octet,
   Field.octet message.defaultMessageId,
   Field.octet (UInt8.ofNat message.octets.length),
   .ok message.octets] ++ message.parameters.map Field.parameter

/-- The fields of a body in the order in which they travel. A response that reports an error and has
nothing to say leaves its body out. -/
def fields (status : CommandStatus) : Body → List (Except CodecError Octets)
  | bindTransceiver request => bindFields request
  | bindTransceiverResp response =>
      if !status.isOk && response.systemId.isEmpty && response.parameters.isEmpty then []
      else Field.text response.systemId 16 "system_id" :: response.parameters.map Field.parameter
  | submitSm message => messageFields message
  | submitSmResp messageId =>
      if !status.isOk && messageId.isEmpty then [] else [Field.text messageId 65 "message_id"]
  | deliverSm message => messageFields message
  | deliverSmResp messageId => [Field.text messageId 65 "message_id"]
  | enquireLink | enquireLinkResp | unbind | unbindResp | genericNack => []
  | unknown _ _ octets => [.ok octets]

end Body

namespace Frame

def headerFor (frame : Frame) (length : Nat) : Header :=
  ⟨UInt32.ofNat length, frame.commandId, frame.status, frame.sequence⟩

/-- The encoding of a frame. Until the body is complete the header declares no length; a frame beyond
the largest size is taken back. -/
def encode (frame : Frame) : Encoding :=
  match frame.body.validate with
  | .error error => ⟨[], some error⟩
  | .ok () =>
      let body := Encoding.ofFields (frame.body.fields frame.status)
      let length := Header.size + body.octets.length
      match body.failure with
      | some error => ⟨(frame.headerFor 0).encode ++ body.octets, some error⟩
      | none =>
          if Header.largestFrame < length then
            ⟨[], some (.fieldTooLong "command_length" Header.largestFrame length)⟩
          else ⟨(frame.headerFor length).encode ++ body.octets, none⟩

def toOctets (frame : Frame) : Except CodecError Octets := frame.encode.result

def encodedSize (frame : Frame) : Nat :=
  match frame.toOctets with
  | .ok octets => octets.length
  | .error _ => 0

end Frame

end Smpp
