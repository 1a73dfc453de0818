import Smpp.Pdu.CommandId
import Smpp.Pdu.CommandStatus
import Smpp.Pdu.ShortMessage

/-!
Frames: a status, a sequence number and one of the bodies that a transceiver session speaks. A frame
with any other command id is kept as it came.
-/

namespace Smpp

structure BindRequest where
  systemId : String
  password : String := ""
  systemType : String := ""
  version : InterfaceVersion := .v34
  ton : TypeOfNumber := .unknown
  npi : NumberingPlan := .unknown
  addressRange : String := ""
  deriving DecidableEq, Repr

structure BindResponse where
  systemId : String := ""
  parameters : List Parameter := []
  deriving DecidableEq, Repr

def BindResponse.scInterfaceVersion? (response : BindResponse) : Option InterfaceVersion :=
  (Parameter.find? Parameter.scInterfaceVersion response.parameters).bind fun parameter =>
    parameter.toOctet?.bind InterfaceVersion.ofOctet?

inductive Body
  | bindTransceiver (request : BindRequest)
  | bindTransceiverResp (response : BindResponse)
  | submitSm (message : ShortMessage)
  | submitSmResp (messageId : String)
  | deliverSm (message : ShortMessage)
  | deliverSmResp (messageId : String)
  | enquireLink
  | enquireLinkResp
  | unbind
  | unbindResp
  | genericNack
  /-- A frame that the session does not speak, with the length that it declared. -/
  | unknown (id : CommandId) (declaredLength : UInt32) (octets : Octets)
  deriving DecidableEq, Repr

structure Frame where
  status : CommandStatus := .ok
  sequence : UInt32
  body : Body
  deriving DecidableEq, Repr

def Body.commandId : Body → CommandId
  | bindTransceiver _ => .bindTransceiver
  | bindTransceiverResp _ => .bindTransceiverResp
  | submitSm _ => .submitSm
  | submitSmResp _ => .submitSmResp
  | deliverSm _ => .deliverSm
  | deliverSmResp _ => .deliverSmResp
  | enquireLink => .enquireLink
  | enquireLinkResp => .enquireLinkResp
  | unbind => .unbind
  | unbindResp => .unbindResp
  | genericNack => .genericNack
  | unknown id _ _ => id

def Body.parameters : Body → List Parameter
  | bindTransceiverResp response => response.parameters
  | submitSm message => message.parameters
  | deliverSm message => message.parameters
  | _ => []

namespace Frame

def commandId (frame : Frame) : CommandId := frame.body.commandId

def isResponse (frame : Frame) : Bool := frame.commandId.isResponse

def parameters (frame : Frame) : List Parameter := frame.body.parameters

end Frame

end Smpp
