import Smpp.Codec.Error
import Smpp.Message.Receipt

/-!
The states of a session and the errors that its calls report. A fatal error says that the connection
is gone.
-/

namespace Smpp

inductive SessionState
  | disconnected
  | connected
  | bound
  | unbound
  deriving DecidableEq, Repr

def SessionState.name : SessionState → String
  | disconnected => "Disconnected"
  | connected => "Connected"
  | bound => "Bound"
  | unbound => "Unbound"

inductive SessionError
  | connection (reason : String)
  | bindRejected (status : CommandStatus)
  | encoding (error : CodecError)
  | decoding (error : CodecError)
  | writeFailed (reason : String)
  | notBound (state : SessionState)
  | protocolViolation (error : CodecError)
  | malformedReceipt (error : ReceiptError)
  | connectionLost
  | timeout
  | rejected (status : CommandStatus)
  | invalidState (reason : String)
  | unexpectedFrame (expected actual : CommandId)
  deriving DecidableEq, Repr

namespace SessionError

def message : SessionError → String
  | connection reason => s!"Connection error: {reason}"
  | bindRejected status => s!"Bind rejected by SMSC: {status.name}"
  | encoding error => s!"Encoding error: {error.message}"
  | decoding error => s!"Decoding error: {error.message}"
  | writeFailed reason => s!"Write failed: {reason}"
  | notBound state => s!"Session is not bound (state: {state.name})"
  | protocolViolation error => s!"Protocol violation: {error.message}"
  | malformedReceipt error => error.message
  | connectionLost => "Connection lost"
  | timeout => "Operation timeout"
  | rejected status => s!"Protocol error: {status.name}"
  | invalidState reason => s!"Invalid session state: {reason}"
  | unexpectedFrame expected actual =>
      s!"Unexpected PDU: expected {expected.name}, got {actual.name}"

def isFatal : SessionError → Bool
  | connection _ | writeFailed _ | protocolViolation _ | connectionLost => true
  | _ => false

end SessionError

end Smpp
