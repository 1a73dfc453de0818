import Smpp.Session.KeepAlive
import Smpp.Session.Link

/-!
The task that asks a bound session's SMS centre whether it is still there. It rests between two
questions, and it asks for the session to be closed when too many answers in a row have failed. A look at
the state, the question, and what is learnt if the question could not be sent make one step.
-/

namespace Smpp

inductive PingVerdict
  | goOn
  | giveUp
  | stop
  deriving DecidableEq, Repr

/-- The only answer that counts as one is an enquire_link_resp without an error. -/
def Outcome.isPong : Outcome → Bool
  | .ok frame => frame.body == .enquireLinkResp && frame.status.isOk
  | .error _ => false

def Outcome.isFatal : Outcome → Bool
  | .ok _ => false
  | .error error => error.isFatal

namespace KeepAlive

def learn (keepAlive : KeepAlive) (outcome : Outcome) : KeepAlive × PingVerdict :=
  if Outcome.isFatal outcome then (keepAlive, .stop)
  else
    let keepAlive := if Outcome.isPong outcome then keepAlive.succeeded else keepAlive.failed
    (keepAlive, if keepAlive.hasFailed then .giveUp else .goOn)

end KeepAlive

inductive PingPhase
  /-- It has not been started, or it was called off. -/
  | off
  | resting
  | asking (handle : PendingHandle)
  | ended
  deriving DecidableEq, Repr

structure Pinger where
  keepAlive : KeepAlive
  phase : PingPhase := .off
  deriving DecidableEq, Repr

namespace Pinger

def start (pinger : Pinger) : Pinger :=
  if pinger.keepAlive.config.isEnabled ∧ pinger.phase = .off then
    { keepAlive := { config := pinger.keepAlive.config }, phase := .resting }
  else pinger

def callOff (pinger : Pinger) : Pinger := { pinger with phase := .off }

def learn (link : Link) (pinger : Pinger) (outcome : Outcome) : Link × Pinger :=
  match pinger.keepAlive.learn outcome with
  | (keepAlive, .goOn) => (link, { keepAlive, phase := .resting })
  | (keepAlive, .giveUp) =>
      (link.requestClose (some .connectionLost), { keepAlive, phase := .ended })
  | (keepAlive, .stop) => (link, { keepAlive, phase := .ended })

def ask (link : Link) (pinger : Pinger) : Link × Pinger :=
  if link.state = .bound then
    let keepAlive := pinger.keepAlive.sent link.now
    match link.send .enquireLink with
    | (.ok handle, link) => (link, { keepAlive, phase := .asking handle })
    | (.error error, link) => learn link { pinger with keepAlive } (.error error)
  else (link, { pinger with phase := .ended })

end Pinger

end Smpp
