import Smpp.Session.Config

/-!
The bookkeeping of keep-alive: when the next question is due, and how many answers have failed in a
row. One answer starts the count again.
-/

namespace Smpp

structure KeepAlive where
  config : KeepAliveConfig
  lastPing : Option Nat := none
  failures : Nat := 0
  pings : Nat := 0
  pongs : Nat := 0
  deriving DecidableEq, Repr

namespace KeepAlive

def hasFailed (keepAlive : KeepAlive) : Bool := keepAlive.config.mostFailures ≤ keepAlive.failures

def isDue (keepAlive : KeepAlive) (now : Nat) : Bool :=
  keepAlive.config.isEnabled && !keepAlive.hasFailed &&
    match keepAlive.lastPing with
    | none => true
    | some last => keepAlive.config.interval ≤ now - last

def sent (keepAlive : KeepAlive) (now : Nat) : KeepAlive :=
  { keepAlive with lastPing := some now, pings := keepAlive.pings + 1 }

def succeeded (keepAlive : KeepAlive) : KeepAlive :=
  { keepAlive with failures := 0, pongs := keepAlive.pongs + 1 }

def failed (keepAlive : KeepAlive) : KeepAlive :=
  { keepAlive with failures := keepAlive.failures + 1 }

end KeepAlive

end Smpp
