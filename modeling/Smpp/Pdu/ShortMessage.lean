import Smpp.Pdu.Address
import Smpp.Pdu.DataCoding
import Smpp.Pdu.EsmClass
import Smpp.Pdu.Parameter

/-!
A short message with its addresses, as submit_sm and deliver_sm carry it, and what a receiver reads
from it. A message that is too long for its field travels in a parameter instead.
-/

namespace Smpp

structure ShortMessage where
  serviceType : String := ""
  sourceTon : TypeOfNumber := .unknown
  sourceNpi : NumberingPlan := .unknown
  sourceAddress : String := ""
  destinationTon : TypeOfNumber := .unknown
  destinationNpi : NumberingPlan := .unknown
  destinationAddress : String := ""
  esmClass : EsmClass := .plain
  protocolId : UInt8 := 0
  priority : UInt8 := 0
  scheduleDeliveryTime : String := ""
  validityPeriod : String := ""
  registeredDelivery : UInt8 := 0
  replaceIfPresent : UInt8 := 0
  dataCoding : DataCoding := .gsm
  defaultMessageId : UInt8 := 0
  octets : Octets := []
  parameters : List Parameter := []
  deriving DecidableEq, Repr

namespace ShortMessage

/-- The message with its header: the field for it, or the payload parameter when the field is empty. -/
def payload (message : ShortMessage) : Octets :=
  if message.octets.isEmpty then
    match Parameter.find? Parameter.messagePayload message.parameters with
    | some parameter => parameter.value
    | none => []
  else message.octets

/-- The message behind its header, whose first octet counts the others. A header that claims more
than there is leaves nothing. -/
def userData (message : ShortMessage) : Octets :=
  if message.esmClass.hasHeader then
    match message.payload with
    | [] => []
    | headerLength :: rest => rest.drop headerLength.toNat
  else message.payload

def fillBits (message : ShortMessage) : Nat :=
  if message.esmClass.hasHeader then
    match message.payload with
    | [] => 0
    | headerLength :: _ => (7 - (headerLength.toNat + 1) * 8 % 7) % 7
  else 0

def text (message : ShortMessage) : String := message.dataCoding.decodeText message.userData

def packedText (message : ShortMessage) : String :=
  message.dataCoding.decodePackedText message.userData message.fillBits

def isDeliveryReceipt (message : ShortMessage) : Bool := message.esmClass.isDeliveryReceipt

def receiptedMessageId? (message : ShortMessage) : Option String :=
  (Parameter.find? Parameter.receiptedMessageId message.parameters).bind Parameter.toText?

def messageState? (message : ShortMessage) : Option UInt8 :=
  (Parameter.find? Parameter.messageState message.parameters).bind Parameter.toOctet?

end ShortMessage

end Smpp
