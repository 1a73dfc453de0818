/-!
The command ids of SMPP 3.4. A command id is its number on the wire; the ids that the protocol lists
have names, and the top bit tells responses from requests.
-/

namespace Smpp

structure CommandId where
  code : UInt32
  deriving DecidableEq, Repr

namespace CommandId

def genericNack : CommandId := ⟨0x80000000⟩
def bindReceiver : CommandId := ⟨0x00000001⟩
def bindReceiverResp : CommandId := ⟨0x80000001⟩
def bindTransmitter : CommandId := ⟨0x00000002⟩
def bindTransmitterResp : CommandId := ⟨0x80000002⟩
def querySm : CommandId := ⟨0x00000003⟩
def querySmResp : CommandId := ⟨0x80000003⟩
def submitSm : CommandId := ⟨0x00000004⟩
def submitSmResp : CommandId := ⟨0x80000004⟩
def deliverSm : CommandId := ⟨0x00000005⟩
def deliverSmResp : CommandId := ⟨0x80000005⟩
def unbind : CommandId := ⟨0x00000006⟩
def unbindResp : CommandId := ⟨0x80000006⟩
def replaceSm : CommandId := ⟨0x00000007⟩
def replaceSmResp : CommandId := ⟨0x80000007⟩
def cancelSm : CommandId := ⟨0x00000008⟩
def cancelSmResp : CommandId := ⟨0x80000008⟩
def bindTransceiver : CommandId := ⟨0x00000009⟩
def bindTransceiverResp : CommandId := ⟨0x80000009⟩
def outbind : CommandId := ⟨0x0000000B⟩
def enquireLink : CommandId := ⟨0x00000015⟩
def enquireLinkResp : CommandId := ⟨0x80000015⟩
def submitMulti : CommandId := ⟨0x00000021⟩
def submitMultiResp : CommandId := ⟨0x80000021⟩
def alertNotification : CommandId := ⟨0x00000102⟩
def dataSm : CommandId := ⟨0x00000103⟩
def dataSmResp : CommandId := ⟨0x80000103⟩

def names : List (CommandId × String) :=
  [(genericNack, "GenericNack"), (bindReceiver, "BindReceiver"),
   (bindReceiverResp, "BindReceiverResp"), (bindTransmitter, "BindTransmitter"),
   (bindTransmitterResp, "BindTransmitterResp"), (querySm, "QuerySm"),
   (querySmResp, "QuerySmResp"), (submitSm, "SubmitSm"), (submitSmResp, "SubmitSmResp"),
   (deliverSm, "DeliverSm"), (deliverSmResp, "DeliverSmResp"), (unbind, "Unbind"),
   (unbindResp, "UnbindResp"), (replaceSm, "ReplaceSm"), (replaceSmResp, "ReplaceSmResp"),
   (cancelSm, "CancelSm"), (cancelSmResp, "CancelSmResp"), (bindTransceiver, "BindTransceiver"),
   (bindTransceiverResp, "BindTransceiverResp"), (outbind, "Outbind"),
   (enquireLink, "EnquireLink"), (enquireLinkResp, "EnquireLinkResp"),
   (submitMulti, "SubmitMulti"), (submitMultiResp, "SubmitMultiResp"),
   (alertNotification, "AlertNotification"), (dataSm, "DataSm"), (dataSmResp, "DataSmResp")]

def name (id : CommandId) : String := (names.lookup id).getD s!"Other({id.code})"

def responseBit : UInt32 := 0x80000000

def isResponse (id : CommandId) : Bool := id.code &&& responseBit != 0

/-- The id of the response to a request. Responses have none, and neither have the two requests that
are never answered. -/
def responseId? (id : CommandId) : Option CommandId :=
  if id.isResponse || id = alertNotification || id = outbind then none
  else some ⟨id.code ||| responseBit⟩

end CommandId

end Smpp
