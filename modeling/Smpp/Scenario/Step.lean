import Smpp.Scenario.Clock

/-!
A session against an SMS centre that follows a script. The centre sees a request, sends what the
script says and may drop the connection; then everything happens that can happen, and a report tells
what could be seen of it.
-/

namespace Smpp

def Frame.split (octets : Octets) : List Octets :=
  match step : Frame.check octets with
  | .ok length =>
      have _bounds := Frame.check_bounds step
      octets.take length :: split (octets.drop length)
  | .error _ => []
termination_by octets.length
decreasing_by
  simp only [List.length_drop]
  unfold Header.size at _bounds
  omega

inductive Action
  /-- Binds with the credentials of the settings, of which it replaces the id and the password. -/
  | bind (systemId password : String)
  | bindConfigured
  | bindWith (credentials : Credentials)
  /-- Cuts a text into segments and submits one of them, counted from zero; the handle may be kept. -/
  | submit (source destination text : String) (part : Nat) (wantsReceipt isTracked : Bool)
  | sendMessage (source destination text : String)
  /-- Waits for the response to a kept handle, which it uses up. -/
  | messageId (sequence : UInt32)
  | enquireLink
  | unbind
  | disconnect
  | waitClosed
  deriving DecidableEq, Repr

inductive Step
  | call (action : Action) (replies : List Octets) (drops : Bool)
  /-- The centre sends, all at once or so that the session notices each chunk. -/
  | send (chunks : List Octets) (apart : Bool)
  /-- The centre drops the connection, which the session notices at once or in the next step. -/
  | drop (isNoticed : Bool)
  | advance (time : Nat)
  | age
  deriving DecidableEq, Repr

inductive StepEnd
  | result (result : Result)
  | noHandle
  | stillOpen

structure Report where
  ending : StepEnd
  written : List Octets
  sawEnd : Bool
  handled : List Frame
  state : SessionState
  outstanding : Nat

structure Play where
  scenario : Scenario
  isDropped : Bool := false
  sawEnd : Bool := false
  kept : List (UInt32 × PendingHandle) := []

namespace Play

def ofConfig (config : SessionConfig) (handlers : HandlerTable) : Play :=
  { scenario :=
      { session := Session.ofConfig config handlers
        inbound := some { policy := if config.tagsTolerated then .tolerant else .strict } } }

def session (play : Play) : Session := play.scenario.session

def within (play : Play) (change : Scenario → Scenario) : Play :=
  { play with scenario := change play.scenario }

def settle (play : Play) : Play := play.within fun scenario => scenario.settle.calm

/-- The centre looks whether the session has closed its side, which it can no longer see after it has
dropped the connection. -/
def look (play : Play) : Play :=
  { play with
    sawEnd := play.sawEnd || (play.session.link.writer.isClosed && !play.isDropped) }

def deliver (play : Play) (octets : Octets) : Play :=
  match play.isDropped, play.scenario.inbound with
  | false, some reader =>
      let (events, inbound) := (reader.feed octets).drain
      play.within fun scenario => { scenario with inbound, inbox := scenario.inbox ++ events }
  | _, _ => play

def drop (play : Play) : Play :=
  if play.isDropped then play
  else
    let play := play.look
    let last := (play.scenario.inbound.map Inbound.atEnd).toList
    { play with
      isDropped := true
      scenario :=
        { play.scenario with
          inbound := none
          inbox := play.scenario.inbox ++ last
          session :=
            { play.session with
              link :=
                { play.session.link with
                  writer :=
                    { play.session.link.writer with
                      sink := { play.session.link.writer.sink with room := some 0 } } } } } }

def handle? (play : Play) (sequence : UInt32) : Option PendingHandle := play.kept.lookup sequence

def forget (play : Play) (sequence : UInt32) : Play :=
  { play with kept := play.kept.filter fun entry => entry.1 != sequence }

def request (play : Play) : Action → Except StepEnd Request
  | .bind systemId password =>
      .ok (.bind { play.session.link.config.credentials with systemId, password })
  | .bindConfigured => .ok (.bind play.session.link.config.credentials)
  | .bindWith credentials => .ok (.bind credentials)
  | .submit source destination text part wantsReceipt _ =>
      match (Segmenter.segment {} text .auto).1 with
      | .error error => .error (.result (.error (.encoding error)))
      | .ok message =>
          match message.segments[part]? with
          | some segment => .ok (.submit source destination segment wantsReceipt)
          | none => .error .noHandle
  | .sendMessage source destination text => .ok (.sendMessage source destination text)
  | .messageId sequence =>
      match play.handle? sequence with
      | some handle => .ok (.messageId handle)
      | none => .error .noHandle
  | .enquireLink => .ok .enquireLink
  | .unbind => .ok .unbind
  | .disconnect => .ok .disconnect
  | .waitClosed =>
      if play.session.link.state = .disconnected then .ok .waitClosed else .error .stillOpen

def remember (play : Play) (action : Action) (ending : StepEnd) : Play :=
  match action, ending with
  | .submit _ _ _ _ _ true, .result (.ok (.submitted handle)) =>
      let play := play.forget handle.sequence
      { play with kept := (handle.sequence, handle) :: play.kept }
  | .messageId sequence, _ => play.forget sequence
  | _, _ => play

def isAwaiting (play : Play) : Bool :=
  match play.session.call with
  | .awaiting .. => true
  | .none | .leaving _ | .joining | .returned _ => false

/-- Makes a call. The centre sends its replies when the request is there, or when the call has returned
without one. -/
def call (play : Play) (request : Request) (replies : List Octets) (drops : Bool) : Play :=
  let play := play.within fun scenario => (scenario.makeCall (.start request)).resume
  let play := if play.isAwaiting then play else play.settle
  let play := replies.foldl deliver play
  let play := if drops then play.drop else play
  play.settle

def result (play : Play) : Result :=
  match play.session.call with
  | .returned result => result
  | .none | .awaiting .. | .leaving _ | .joining => .ok .done

def act (play : Play) : Step → StepEnd × Play
  | .call action replies drops =>
      match play.request action with
      | .error ending => (ending, play.settle)
      | .ok request =>
          let play := play.call request replies drops
          let ending := .result play.result
          (ending, play.remember action ending)
  | .send chunks apart =>
      let take (play : Play) (chunk : Octets) :=
        if apart then (play.deliver chunk).settle else play.deliver chunk
      (.result (.ok .done), (chunks.foldl take play).settle)
  | .drop isNoticed =>
      (.result (.ok .done), if isNoticed then play.drop.settle else play.drop)
  | .advance time =>
      (.result (.ok .done), play.settle.within fun scenario => scenario.advance time)
  | .age =>
      let config := play.session.link.config
      let play := play.settle.within fun scenario => scenario.make (.age config.responseTimeout)
      (.result (.ok .done),
        play.within fun scenario => scenario.advance (Listener.sweepPeriod config))

/-- Takes a step. Each takes a millisecond of its own, apart from a drop that is not noticed. -/
def take (play : Play) (step : Step) : Report × Play :=
  let accepted := play.session.link.writer.sink.accepted.length
  let dispatched := play.session.link.dispatched.length
  let (ending, play) := play.act step
  let play :=
    if step = .drop false then play
    else play.within fun scenario => (scenario.advance 1).calm
  let play := play.look
  let link := play.session.link
  ({ ending
     written := Frame.split (link.writer.sink.accepted.drop accepted)
     sawEnd := play.sawEnd
     handled := ((link.dispatched.drop dispatched).filter fun handling =>
       handling.1.installedName?.isSome).map Prod.snd
     state := link.state
     outstanding := link.pending.size },
    play)

end Play

end Smpp
