import Smpp.Pdu.Frame

/-!
The settings of a session. Times are in milliseconds.
-/

namespace Smpp

structure KeepAliveConfig where
  interval : Nat := 30000
  timeout : Nat := 10000
  mostFailures : Nat := 3
  isEnabled : Bool := true
  deriving DecidableEq, Repr

def KeepAliveConfig.disabled : KeepAliveConfig := { isEnabled := false }

structure Credentials where
  systemId : String := ""
  password : String := ""
  systemType : Option String := none
  version : InterfaceVersion := .v34
  deriving DecidableEq, Repr

def Credentials.request (credentials : Credentials) : BindRequest :=
  { systemId := credentials.systemId
    password := credentials.password
    systemType := credentials.systemType.getD ""
    version := credentials.version }

structure SessionConfig where
  host : String := "localhost"
  port : UInt16 := 2775
  connectTimeout : Nat := 10000
  credentials : Credentials := {}
  responseTimeout : Nat := 30000
  unbindTimeout : Nat := 5000
  handlerBudget : Nat := 100
  tagsTolerated : Bool := true
  sourceTon : TypeOfNumber := .international
  sourceNpi : NumberingPlan := .unknown
  destinationTon : TypeOfNumber := .international
  destinationNpi : NumberingPlan := .unknown
  /-- Whether messages that are cut into segments ask for receipts. -/
  deliveryReceipts : Bool := true
  keepAlive : KeepAliveConfig := {}
  deriving DecidableEq, Repr

def SessionConfig.address (config : SessionConfig) : String := s!"{config.host}:{config.port}"

end Smpp
