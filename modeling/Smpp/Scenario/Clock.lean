import Smpp.Session.Session

/-!
A session on a clock of its own. Time stands still as long as anything can happen without it, and then
goes on to the next alarm. Of the moves that can be made at one time, those of a call or of the
keep-alive whose outcome is there come first, whenever the listener has to wait for something. A listener
that has been asked to stop does so before it takes up what else has been read.
-/

namespace Smpp

inductive Alarm
  | handler
  | call
  | answer
  | question
  | sweep
  deriving DecidableEq, Repr

structure Scenario where
  session : Session
  inbound : Option Inbound
  inbox : List Inbound.Event := []
  clock : Nat := 0
  handlerBy : Nat := 0
  callBy : Option Nat := none
  answerBy : Nat := 0
  questionAt : Nat := 0
  sweepAt : Nat := 0

namespace Scenario

def make (scenario : Scenario) (move : Session.Move) : Scenario :=
  { scenario with session := scenario.session.move move }

/-- Makes a move of the call. A wait that it begins gets its limit, and so does a keep-alive that it
starts. -/
def makeCall (scenario : Scenario) (move : Session.Move) : Scenario :=
  let session := scenario.session.move move
  let isStarted := scenario.session.pinger.phase = .off ∧ session.pinger.phase = .resting
  { scenario with
    session
    callBy := session.patience?.map (scenario.clock + ·)
    questionAt :=
      if isStarted then scenario.clock + max 1 session.pinger.keepAlive.config.interval
      else scenario.questionAt }

def canResume (scenario : Scenario) : Bool :=
  match scenario.session.call, scenario.session.listener with
  | .awaiting _ handle, _ => (scenario.session.link.pending.outcome? handle).isSome
  | .leaving _, .ended _ | .joining, .ended _ => true
  | _, _ => false

def resume (scenario : Scenario) : Scenario :=
  if scenario.canResume then scenario.makeCall .resume else scenario

/-- Whoever waits for something that is there goes on. A call that goes on may find that the next
thing it waits for is there too. -/
def wake (scenario : Scenario) : Scenario := scenario.resume.resume.make .learn

/-- The listener takes something up. It does not wait for a handler that has no time at all. -/
def hear (scenario : Scenario) (event : Inbound.Event) : Scenario :=
  let scenario := scenario.make (.hear event)
  match scenario.session.listener with
  | .handling handler frame =>
      if scenario.session.link.config.handlerBudget = 0 then scenario.make (.handled .overran)
      else
        let scenario := scenario.wake
        match handler.handle frame with
        | .overran =>
            { scenario with
              handlerBy := scenario.clock + scenario.session.link.config.handlerBudget }
        | ending => scenario.make (.handled ending)
  | .reading | .ended _ => scenario

def workOff (scenario : Scenario) : List Inbound.Event → Scenario
  | [] => { scenario with inbox := [] }
  | event :: others =>
      match scenario.session.listener with
      | .reading =>
          if scenario.session.link.closeRequested then { scenario.make .stop with inbox := [] }
          else (scenario.hear event).workOff others
      | .handling .. => { scenario with inbox := event :: others }
      | .ended _ => { scenario with inbox := [] }

def settle (scenario : Scenario) : Scenario :=
  ((scenario.workOff scenario.inbox).wake.make .stop).wake

def alarms (scenario : Scenario) : List (Nat × Alarm) :=
  (match scenario.session.listener with
    | .handling .. => [(scenario.handlerBy, .handler)]
    | .reading => [(scenario.sweepAt, .sweep)]
    | .ended _ => []) ++
  (match scenario.callBy with
    | some time => [(time, .call)]
    | none => []) ++
  (match scenario.session.pinger.phase with
    | .asking _ => [(scenario.answerBy, .answer)]
    | .resting => [(scenario.questionAt, .question)]
    | .off | .ended => [])

def nextAlarm? (scenario : Scenario) : Option (Nat × Alarm) :=
  scenario.alarms.foldl
    (fun best alarm =>
      match best with
      | some earliest => if alarm.1 < earliest.1 then some alarm else best
      | none => some alarm)
    none

/-- When a regular event comes again: a period later, counted from when it was due, or from now if it
comes late. -/
def again (due clock period : Nat) : Nat := if clock ≤ due + 5 then due + period else clock + period

def ring (scenario : Scenario) (time : Nat) (alarm : Alarm) : Scenario :=
  let scenario := { scenario with clock := max scenario.clock time }
  let config := scenario.session.link.config
  let rung :=
    match alarm with
    | .handler => scenario.make (.handled .overran)
    | .call => scenario.makeCall .giveUp
    | .answer => scenario.make .miss
    | .question =>
        { scenario.make .ask with
          questionAt := again time scenario.clock (max 1 config.keepAlive.interval)
          answerBy := scenario.clock + config.keepAlive.timeout }
    | .sweep =>
        { scenario.make .sweep with
          sweepAt := again time scenario.clock (Listener.sweepPeriod config) }
  rung.settle

def advanceWithin : Nat → Nat → Scenario → Scenario
  | 0, target, scenario => { scenario with clock := max scenario.clock target }
  | count + 1, target, scenario =>
      match scenario.nextAlarm? with
      | some (time, alarm) =>
          if time ≤ target then advanceWithin count target (scenario.ring time alarm)
          else { scenario with clock := max scenario.clock target }
      | none => { scenario with clock := max scenario.clock target }

/-- Time goes on for a while. In one millisecond an alarm of each kind can go off, and a handler can
overrun for each event. -/
def advance (scenario : Scenario) (time : Nat) : Scenario :=
  advanceWithin (8 * (time + 1) + scenario.inbox.length) (scenario.clock + time) scenario

def isQuiet (scenario : Scenario) : Bool :=
  !scenario.session.call.isUnderWay &&
    match scenario.session.listener with
    | .handling .. => false
    | .reading | .ended _ => true

def calmWithin : Nat → Scenario → Scenario
  | 0, scenario => scenario
  | count + 1, scenario =>
      if scenario.isQuiet then scenario
      else
        match scenario.nextAlarm? with
        | some (time, alarm) => calmWithin count (scenario.ring time alarm)
        | none => scenario

def calm (scenario : Scenario) : Scenario :=
  let config := scenario.session.link.config
  let longest :=
    config.responseTimeout + 2 * config.unbindTimeout +
      (scenario.inbox.length + 1) * config.handlerBudget
  calmWithin (8 * (longest + 1) + scenario.inbox.length) scenario

end Scenario

end Smpp
