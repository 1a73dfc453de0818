/-!
The status codes that responses carry. A status is its number on the wire; the codes that the protocol
lists have names.
-/

namespace Smpp

structure CommandStatus where
  code : UInt32
  deriving DecidableEq, Repr

namespace CommandStatus

def ok : CommandStatus := ⟨0x00⟩
def invalidMsgLength : CommandStatus := ⟨0x01⟩
def invalidCommandLength : CommandStatus := ⟨0x02⟩
def invalidCommandId : CommandStatus := ⟨0x03⟩
def incorrectBindStatus : CommandStatus := ⟨0x04⟩
def alreadyBoundState : CommandStatus := ⟨0x05⟩
def invalidPriorityFlag : CommandStatus := ⟨0x06⟩
def invalidRegisteredDeliveryFlag : CommandStatus := ⟨0x07⟩
def systemError : CommandStatus := ⟨0x08⟩
def invalidSourceAddress : CommandStatus := ⟨0x0A⟩
def invalidDestinationAddress : CommandStatus := ⟨0x0B⟩
def invalidMessageId : CommandStatus := ⟨0x0C⟩
def bindFailed : CommandStatus := ⟨0x0D⟩
def invalidPassword : CommandStatus := ⟨0x0E⟩
def invalidSystemId : CommandStatus := ⟨0x0F⟩
def cancelSmFailed : CommandStatus := ⟨0x11⟩
def replacedSmFailed : CommandStatus := ⟨0x13⟩
def messageQueueFull : CommandStatus := ⟨0x14⟩
def invalidServiceType : CommandStatus := ⟨0x15⟩
def invalidNumberOfDestinations : CommandStatus := ⟨0x33⟩
def invalidDistributionListName : CommandStatus := ⟨0x34⟩
def invalidDestinationFlag : CommandStatus := ⟨0x40⟩
def invalidSubmitWithReplaceRequest : CommandStatus := ⟨0x42⟩
def invalidEsmClassFieldData : CommandStatus := ⟨0x43⟩
def cannotSubmitToDistributionList : CommandStatus := ⟨0x44⟩
def submitFailed : CommandStatus := ⟨0x45⟩
def invalidSourceAddressTon : CommandStatus := ⟨0x48⟩
def invalidSourceAddressNpi : CommandStatus := ⟨0x49⟩
def invalidDestinationAddressTon : CommandStatus := ⟨0x50⟩
def invalidDestinationAddressNpi : CommandStatus := ⟨0x51⟩
def invalidSystemTypeField : CommandStatus := ⟨0x53⟩
def invalidReplaceIfPresentFlag : CommandStatus := ⟨0x54⟩
def invalidNumberOfMessages : CommandStatus := ⟨0x55⟩
def throttlingError : CommandStatus := ⟨0x58⟩
def invalidScheduledDeliveryTime : CommandStatus := ⟨0x61⟩
def invalidExpiryTime : CommandStatus := ⟨0x62⟩
def invalidPredefinedMessageId : CommandStatus := ⟨0x63⟩
def receiverTemporaryAppError : CommandStatus := ⟨0x64⟩
def receiverPermanentAppError : CommandStatus := ⟨0x65⟩
def receiverRejectMessageError : CommandStatus := ⟨0x66⟩
def querySmRequestFailed : CommandStatus := ⟨0x67⟩
def errorInOptionalPartofPduBody : CommandStatus := ⟨0xC0⟩
def optionalParameterNotAllowed : CommandStatus := ⟨0xC1⟩
def invalidParameterLength : CommandStatus := ⟨0xC2⟩
def expectedOptionalParameterMissing : CommandStatus := ⟨0xC3⟩
def invalidOptionalParameterValue : CommandStatus := ⟨0xC4⟩
def deliveryFailed : CommandStatus := ⟨0xFE⟩
def unknownError : CommandStatus := ⟨0xFF⟩

def names : List (CommandStatus × String) :=
  [(ok, "Ok"), (invalidMsgLength, "InvalidMsgLength"),
   (invalidCommandLength, "InvalidCommandLength"), (invalidCommandId, "InvalidCommandId"),
   (incorrectBindStatus, "IncorrectBindStatus"), (alreadyBoundState, "AlreadyBoundState"),
   (invalidPriorityFlag, "InvalidPriorityFlag"),
   (invalidRegisteredDeliveryFlag, "InvalidRegisteredDeliveryFlag"),
   (systemError, "SystemError"), (invalidSourceAddress, "InvalidSourceAddress"),
   (invalidDestinationAddress, "InvalidDestinationAddress"),
   (invalidMessageId, "InvalidMessageId"), (bindFailed, "BindFailed"),
   (invalidPassword, "InvalidPassword"), (invalidSystemId, "InvalidSystemId"),
   (cancelSmFailed, "CancelSmFailed"), (replacedSmFailed, "ReplacedSmFailed"),
   (messageQueueFull, "MessageQueueFull"), (invalidServiceType, "InvalidServiceType"),
   (invalidNumberOfDestinations, "InvalidNumberOfDestinations"),
   (invalidDistributionListName, "InvalidDistributionListName"),
   (invalidDestinationFlag, "InvalidDestinationFlag"),
   (invalidSubmitWithReplaceRequest, "InvalidSubmitWithReplaceRequest"),
   (invalidEsmClassFieldData, "InvalidEsmClassFieldData"),
   (cannotSubmitToDistributionList, "CannotSubmitToDistributionList"),
   (submitFailed, "SubmitFailed"), (invalidSourceAddressTon, "InvalidSourceAddressTon"),
   (invalidSourceAddressNpi, "InvalidSourceAddressNpi"),
   (invalidDestinationAddressTon, "InvalidDestinationAddressTon"),
   (invalidDestinationAddressNpi, "InvalidDestinationAddressNpi"),
   (invalidSystemTypeField, "InvalidSystemTypeField"),
   (invalidReplaceIfPresentFlag, "InvalidReplaceIfPresentFlag"),
   (invalidNumberOfMessages, "InvalidNumberOfMessages"), (throttlingError, "ThrottlingError"),
   (invalidScheduledDeliveryTime, "InvalidScheduledDeliveryTime"),
   (invalidExpiryTime, "InvalidExpiryTime"),
   (invalidPredefinedMessageId, "InvalidPredefinedMessageId"),
   (receiverTemporaryAppError, "ReceiverTemporaryAppError"),
   (receiverPermanentAppError, "ReceiverPermanentAppError"),
   (receiverRejectMessageError, "ReceiverRejectMessageError"),
   (querySmRequestFailed, "QuerySmRequestFailed"),
   (errorInOptionalPartofPduBody, "ErrorInOptionalPartofPduBody"),
   (optionalParameterNotAllowed, "OptionalParameterNotAllowed"),
   (invalidParameterLength, "InvalidParameterLength"),
   (expectedOptionalParameterMissing, "ExpectedOptionalParameterMissing"),
   (invalidOptionalParameterValue, "InvalidOptionalParameterValue"),
   (deliveryFailed, "DeliveryFailed"), (unknownError, "UnknownError")]

def name (status : CommandStatus) : String := (names.lookup status).getD s!"Other({status.code})"

def isOk (status : CommandStatus) : Bool := status = ok

end CommandStatus

end Smpp
