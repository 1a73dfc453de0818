import Smpp.Pdu.CommandId
import Smpp.Pdu.CommandStatus
import Smpp.Text.Numeral
import Smpp.Text.Quoted
import Smpp.Text.Utf8

/-!
Why a frame or a text cannot be encoded or decoded, what is said about it, and the status that is
reported to the peer. No error is reported as success.
-/

namespace Smpp

/-- A reason to refuse octets or values. Sizes are in octets. -/
inductive CodecError
  | incomplete
  | invalidLength (length smallest largest : UInt32)
  | unexpectedCommand (expected actual : CommandId)
  | fieldTooLong (field : String) (largest actual : Nat)
  | missingField (field : String)
  | missingTerminator (field : String) (largest : Nat)
  | truncated (field : String)
  | invalidField (field reason : String)
  | malformedParameter (reason : String)
  | unexpectedParameter (tag : UInt16)
  | invalidText (field : String) (fault : Utf8.Fault)
  | unencodable (character : Char)
  | messageTooLong (segments largest : Nat)
  | lengthMismatch (declared consumed : Nat)
  deriving DecidableEq, Repr

namespace CodecError

def message : CodecError → String
  | incomplete => "Incomplete PDU: need more data"
  | invalidLength length smallest largest =>
      s!"Invalid PDU length: {length}, must be {smallest}-{largest}"
  | unexpectedCommand expected actual =>
      s!"Unexpected command_id: expected {expected.name}, got {actual.name}"
  | fieldTooLong field largest actual => s!"Field '{field}' is {actual} octets, maximum is {largest}"
  | missingField field => s!"Required field '{field}' is empty"
  | missingTerminator field largest =>
      s!"Field '{field}' has no null terminator within {largest} octets"
  | truncated field => s!"PDU body ends inside field '{field}'"
  | invalidField field reason => s!"Field '{field}' validation failed: {reason}"
  | malformedParameter reason => s!"TLV parsing error: {reason}"
  | unexpectedParameter tag =>
      s!"Optional parameter 0x{Numeral.hexadecimal 4 tag.toNat} is not an SMPP v3.4 tag"
  | invalidText field fault => s!"UTF-8 decoding error in field '{field}': {fault.message}"
  | unencodable character =>
      s!"Character {Quoted.character character} has no GSM 7-bit representation"
  | messageTooLong segments largest =>
      s!"Message needs {segments} segments, at most {largest} can be concatenated"
  | lengthMismatch declared consumed =>
      s!"PDU body declared {declared} octets but {consumed} were decoded"

/-- The length at the head of a frame is bad, so that nobody can tell where the next frame starts. -/
def isDesync : CodecError → Bool
  | invalidLength .. => true
  | _ => false

def fieldStatus (field : String) : CommandStatus :=
  match field with
  | "source_addr" => .invalidSourceAddress
  | "destination_addr" => .invalidDestinationAddress
  | "short_message" => .invalidMsgLength
  | "system_id" => .invalidSystemId
  | "password" => .invalidPassword
  | "system_type" => .invalidSystemTypeField
  | "service_type" => .invalidServiceType
  | "message_id" => .invalidMessageId
  | "schedule_delivery_time" => .invalidScheduledDeliveryTime
  | "validity_period" => .invalidExpiryTime
  | _ => .systemError

def invalidFieldStatus (field : String) : CommandStatus :=
  match field with
  | "source_addr_ton" => .invalidSourceAddressTon
  | "source_addr_npi" => .invalidSourceAddressNpi
  | "dest_addr_ton" => .invalidDestinationAddressTon
  | "dest_addr_npi" => .invalidDestinationAddressNpi
  | other => fieldStatus other

def status : CodecError → CommandStatus
  | invalidLength .. | lengthMismatch .. => .invalidCommandLength
  | unexpectedCommand .. => .invalidCommandId
  | invalidField field _ => invalidFieldStatus field
  | fieldTooLong field .. | missingTerminator field _ | invalidText field _ | missingField field =>
      fieldStatus field
  | truncated field => if field = "short_message" then .invalidMsgLength else .invalidCommandLength
  | malformedParameter _ => .invalidParameterLength
  | unexpectedParameter _ => .optionalParameterNotAllowed
  | incomplete | unencodable _ | messageTooLong .. => .systemError

theorem isDesync_iff {error : CodecError} :
    error.isDesync = true ↔ ∃ length smallest largest, error = .invalidLength length smallest largest := by
  cases error <;> simp [isDesync]

theorem fieldStatus_ne_ok (field : String) : fieldStatus field ≠ .ok := by
  unfold fieldStatus
  split <;> decide

theorem invalidFieldStatus_ne_ok (field : String) : invalidFieldStatus field ≠ .ok := by
  unfold invalidFieldStatus
  split <;> first | decide | exact fieldStatus_ne_ok _

theorem status_ne_ok (error : CodecError) : error.status ≠ .ok := by
  cases error with
  | invalidField field reason => exact invalidFieldStatus_ne_ok field
  | fieldTooLong field largest actual => exact fieldStatus_ne_ok field
  | missingTerminator field largest => exact fieldStatus_ne_ok field
  | invalidText field fault => exact fieldStatus_ne_ok field
  | missingField field => exact fieldStatus_ne_ok field
  | truncated field =>
      simp only [status]
      split <;> decide
  | _ => exact fun same => absurd (congrArg CommandStatus.code same) (by simp [status]; decide)

end CodecError

end Smpp
