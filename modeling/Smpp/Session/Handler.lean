import Smpp.Message.Receipt
import Smpp.Pdu.Frame

/-!
Who looks at the frames that come in. A frame goes to the handler of its command, or to the fallback
if the command has none; the library's own handlers write log entries and accept everything.
-/

namespace Smpp

inductive LogLevel
  | debug | info | warn
  deriving DecidableEq, Repr

structure LogEntry where
  level : LogLevel
  message : String
  fields : List (String × String)
  deriving DecidableEq, Repr

/-- How a handler ends: with a status, by dying, or not within its budget. -/
inductive HandlerEnd
  | returned (status : CommandStatus)
  | died
  | overran
  deriving DecidableEq, Repr

def HandlerEnd.status : HandlerEnd → CommandStatus
  | returned status => status
  | died => .systemError
  | overran => .ok

inductive Handler
  | logDelivery
  | logSubmission
  | logUnhandled
  | installed (name : String) (act : Frame → HandlerEnd)

namespace Handler

def unhandledEntry (frame : Frame) : LogEntry :=
  ⟨.debug, "No handler registered, ignoring PDU",
    [("command", frame.commandId.name), ("sequence_number", toString frame.sequence)]⟩

def deliveryEntry (sequence : UInt32) (message : ShortMessage) : LogEntry :=
  if message.isDeliveryReceipt then
    match Receipt.ofMessage message with
    | .ok id => ⟨.info, "Delivery receipt received", [("message_id", id)]⟩
    | .error error => ⟨.warn, error.message, [("sequence_number", toString sequence)]⟩
  else
    ⟨.info, "Message received",
      [("from", message.sourceAddress), ("to", message.destinationAddress), ("text", message.text)]⟩

def submissionEntry (frame : Frame) (messageId : String) : LogEntry :=
  if frame.status.isOk then
    ⟨.info, "Message accepted by SMSC",
      [("sequence_number", toString frame.sequence), ("message_id", messageId)]⟩
  else
    ⟨.warn, "Message rejected by SMSC",
      [("sequence_number", toString frame.sequence), ("status", frame.status.name)]⟩

def log (handler : Handler) (frame : Frame) : List LogEntry :=
  match handler, frame.body with
  | logDelivery, .deliverSm message => [deliveryEntry frame.sequence message]
  | logDelivery, _ => [unhandledEntry frame]
  | logSubmission, .submitSmResp messageId => [submissionEntry frame messageId]
  | logSubmission, _ => []
  | logUnhandled, _ => [unhandledEntry frame]
  | installed _ _, _ => []

def handle (handler : Handler) (frame : Frame) : HandlerEnd :=
  match handler with
  | installed _ act => act frame
  | logDelivery | logSubmission | logUnhandled => .returned .ok

def installedName? : Handler → Option String
  | installed name _ => some name
  | logDelivery | logSubmission | logUnhandled => none

end Handler

structure HandlerTable where
  handlers : List (CommandId × Handler) := []
  fallback : Handler := .logUnhandled

namespace HandlerTable

def register (table : HandlerTable) (id : CommandId) (handler : Handler) : HandlerTable :=
  { table with handlers := (id, handler) :: table.handlers.filter fun entry => entry.1 != id }

def withFallback (table : HandlerTable) (handler : Handler) : HandlerTable :=
  { table with fallback := handler }

def standard : HandlerTable :=
  { handlers := [(.deliverSm, .logDelivery), (.submitSmResp, .logSubmission)] }

def isRegistered (table : HandlerTable) (id : CommandId) : Bool := (table.handlers.lookup id).isSome

def handlerFor (table : HandlerTable) (id : CommandId) : Handler :=
  (table.handlers.lookup id).getD table.fallback

def handle (table : HandlerTable) (frame : Frame) : HandlerEnd :=
  (table.handlerFor frame.commandId).handle frame

end HandlerTable

end Smpp
