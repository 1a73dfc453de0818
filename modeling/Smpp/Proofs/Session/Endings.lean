import Mathlib.Data.List.Induction
import Smpp.Proofs.Codec.Stability
import Smpp.Proofs.Session.Answers
import Smpp.Proofs.Session.Signals

/-!
How a session is reported to have ended. Each task signals one thing at a time, and the listener may read on
in between. A request to close that has no reason comes from the application, and a session is unbound only
by its call, so that a good end has been asked for or answered. The exception is an end of the stream that is
read after a failed write has published that the session is disconnected, and before the listener has looked
for the request to stop that belongs to it.
-/

namespace Smpp

theorem Inbound.desync_of_declared? {reader : Inbound} {length : UInt32}
    (declared : Frame.declared? reader.buffered = some length)
    (outside : length.toNat < Header.size ∨ Header.largestFrame < length.toNat) :
    reader.next? = some (.desync (.invalidLength length 16 65536), reader) := by
  have refused : Frame.check reader.buffered = .error (.invalidLength length 16 65536) := by
    rw [Frame.check_of_declared? declared, if_pos outside]
  unfold next?
  rw [refused]

namespace Listener

variable {link : Link} {event : Inbound.Event} {outcome : Except SessionError Unit}

theorem alike_reply {answer : Frame} (goesOn : (reply link answer).2.outcome? = none) :
    link.Alike (reply link answer).1 := by
  unfold reply at goesOn ⊢
  rcases link.write_cases answer with ⟨writer, _, same⟩ | ⟨error, _, same⟩ | ⟨reason, writer, _, same⟩
  · rw [same]
    exact ⟨rfl, rfl, rfl⟩
  · rw [same] at goesOn
    cases goesOn
  · rw [same] at goesOn
    cases goesOn

theorem end_reply {answer : Frame} (ended : (reply link answer).2 = .ended outcome) :
    outcome = .error .connectionLost := by
  unfold reply at ended
  split at ended
  · cases ended
  · cases ended
    rfl

theorem onFrame_going (link : Link) (frame : Frame) :
    (onFrame link frame).2.outcome? = none ∧ link.Alike (onFrame link frame).1 := by
  unfold onFrame
  split
  · dsimp only
    split <;> exact ⟨rfl, rfl, rfl, rfl⟩
  · exact ⟨rfl, rfl, rfl, rfl⟩

theorem alike_hear (goesOn : (hear link event).2.outcome? = none) : link.Alike (hear link event).1 := by
  cases event with
  | frame frame => exact (onFrame_going link frame).2
  | malformed header error =>
      rw [hear, onMalformed] at goesOn ⊢
      split
      · exact ⟨rfl, rfl, rfl⟩
      · rename_i request
        rw [if_neg request] at goesOn
        exact alike_reply goesOn
  | desync _ | closed | cutOff _ => cases goesOn

theorem end_hear (ended : (hear link event).2 = .ended outcome) :
    outcome = .error .connectionLost ∨
      (∃ error, event = .desync error ∧ outcome = .error (.protocolViolation error)) ∨
      event = .closed ∧ outcome = closing link.state := by
  cases event with
  | frame frame =>
      have going := (onFrame_going link frame).1
      rw [hear] at ended
      rw [ended] at going
      cases going
  | malformed header error =>
      rw [hear, onMalformed] at ended
      split at ended
      · cases ended
      · exact Or.inl (end_reply ended)
  | desync error =>
      cases ended
      exact Or.inr (Or.inl ⟨error, rfl, rfl⟩)
  | closed =>
      cases ended
      exact Or.inr (Or.inr ⟨rfl, rfl⟩)
  | cutOff octets =>
      cases ended
      exact Or.inl rfl

theorem handled_cases (link : Link) (frame : Frame) (ending : HandlerEnd) :
    (handled link frame ending).2.outcome? = none ∧ link.Alike (handled link frame ending).1 ∨
    (handled link frame ending).2 = .ended (.error .connectionLost) ∨
    frame.body = .unbind ∧ (link.write (answerTo frame ending.status)).1 = .ok () ∧
      (handled link frame ending).2 = .ended (.ok ()) := by
  unfold handled
  split
  · exact Or.inl ⟨rfl, .refl link⟩
  · rcases link.write_cases (answerTo frame ending.status) with
      ⟨writer, _, same⟩ | ⟨error, _, same⟩ | ⟨reason, writer, _, same⟩
    · rw [same]
      dsimp only
      split
      · rename_i unbind
        exact Or.inr (Or.inr ⟨unbind, rfl, rfl⟩)
      · exact Or.inl ⟨rfl, rfl, rfl, rfl⟩
    · rw [same]
      exact Or.inr (Or.inl rfl)
    · rw [same]
      exact Or.inr (Or.inl rfl)

theorem stop_cases (link : Link) :
    stop link = (link, .reading) ∨
      link.closeRequested = true ∧ (stop link).2 = .ended link.takeClose.1 := by
  unfold stop
  split
  · rename_i asked
    exact Or.inr ⟨asked, rfl⟩
  · exact Or.inl rfl

end Listener

/-- What a task has still to do to signal that the connection is lost: it publishes that the session is
disconnected, says why the session has to close, and wakes the listener. -/
inductive Alert
  | publishing
  | explaining
  | waking
  deriving DecidableEq

structure Signalling where
  link : Link
  listener : Listener := .reading
  /-- What the tasks that have found the connection lost are about to do. -/
  alerts : List Alert := []
  hasFailed : Bool := false
  hasLeft : Bool := false

namespace Signalling

/-- What can happen next. A task writes, and has to signal it if the transport fails; the keep-alive gives
up; a task goes on with what it has to signal. A bind has been accepted. The application leaves, and then a
call that leaves publishes a state, wakes the listener or cuts it short. Something is done to the requests
that wait, the transport is closed, or time passes. The listener takes up what the reader has found, goes on
when a handler has ended, or looks for a request to stop. -/
inductive Step
  | write (frame : Frame)
  | despair
  | tell (task : Nat)
  | accept
  | leave
  | publish (state : SessionState)
  | wake
  | abort
  | attend (pending : PendingTable)
  | shut
  | age (time : Nat)
  | hear (event : Inbound.Event)
  | handled (ending : HandlerEnd)
  | stop

def write (signalling : Signalling) (frame : Frame) : Signalling :=
  match signalling.link.put frame with
  | (.error (.writeFailed _), link) =>
      { signalling with link, alerts := .publishing :: signalling.alerts, hasFailed := true }
  | (_, link) => { signalling with link }

def tell (signalling : Signalling) (task : Nat) : Signalling :=
  match signalling.alerts[task]? with
  | some .publishing =>
      { signalling with
        link := signalling.link.setState .disconnected
        alerts := signalling.alerts.set task .explaining }
  | some .explaining =>
      { signalling with
        link := signalling.link.explain (some .connectionLost)
        alerts := signalling.alerts.set task .waking }
  | some .waking =>
      { signalling with
        link := signalling.link.wakeListener
        alerts := signalling.alerts.eraseIdx task }
  | none => signalling

def withListener (signalling : Signalling) (next : Link × Listener) : Signalling :=
  { signalling with link := next.1, listener := next.2 }

def abort (signalling : Signalling) : Signalling :=
  match signalling.listener with
  | .ended _ => signalling
  | .reading | .handling .. => { signalling with listener := .ended (.error .connectionLost) }

def take (signalling : Signalling) : Step → Signalling
  | .write frame => signalling.write frame
  | .despair => { signalling with alerts := .explaining :: signalling.alerts }
  | .tell task => signalling.tell task
  | .accept => { signalling with link := signalling.link.setState .bound }
  | .leave => { signalling with hasLeft := true }
  | .publish state =>
      if signalling.hasLeft then { signalling with link := signalling.link.setState state } else signalling
  | .wake =>
      if signalling.hasLeft then { signalling with link := signalling.link.wakeListener } else signalling
  | .abort => if signalling.hasLeft then signalling.abort else signalling
  | .attend pending => { signalling with link := { signalling.link with pending } }
  | .shut => { signalling with link := signalling.link.closeTransport }
  | .age time => { signalling with link := { signalling.link with now := signalling.link.now + time } }
  | .hear event =>
      match signalling.listener with
      | .reading => signalling.withListener (Listener.hear signalling.link event)
      | _ => signalling
  | .handled ending =>
      match signalling.listener with
      | .handling _ frame => signalling.withListener (Listener.handled signalling.link frame ending)
      | _ => signalling
  | .stop =>
      match signalling.listener with
      | .reading => signalling.withListener (Listener.stop signalling.link)
      | _ => signalling

def run (signalling : Signalling) (steps : List Step) : Signalling := steps.foldl take signalling

@[simp] theorem run_nil (signalling : Signalling) : signalling.run [] = signalling := rfl

@[simp] theorem run_cons (signalling : Signalling) (step : Step) (steps : List Step) :
    signalling.run (step :: steps) = (signalling.take step).run steps := rfl

theorem run_append (signalling : Signalling) (first second : List Step) :
    signalling.run (first ++ second) = (signalling.run first).run second := List.foldl_append

def starting (config : SessionConfig) (handlers : HandlerTable) (sink : Sink) : Signalling :=
  { link := (Session.starting config handlers sink).link }

/-- If the link does not look like that of a session which goes on well, then the application has left or the
transport has failed, and a request to close that has no reason comes from the application. -/
structure IsExplained (signalling : Signalling) : Prop where
  reason : signalling.link.closeReason = none ∨ signalling.link.closeReason = some .connectionLost
  told : .waking ∈ signalling.alerts → signalling.link.closeReason = some .connectionLost
  asked : signalling.link.closeRequested = true → signalling.link.closeReason = none →
    signalling.hasLeft = true
  unbound : signalling.link.state = .unbound → signalling.hasLeft = true
  disconnected : signalling.link.state = .disconnected →
    signalling.hasLeft = true ∨ signalling.hasFailed = true
  failed : .publishing ∈ signalling.alerts → signalling.hasFailed = true

section

variable {signalling after : Signalling} {step : Step}

theorem explained_starting (config : SessionConfig) (handlers : HandlerTable) (sink : Sink) :
    (starting config handlers sink).IsExplained where
  reason := Or.inl rfl
  told := nofun
  asked := nofun
  unbound := nofun
  disconnected := nofun
  failed := nofun

theorem IsExplained.of_alike (explained : signalling.IsExplained) (alike : signalling.link.Alike after.link)
    (alerts : after.alerts ⊆ signalling.alerts) (hasFailed : after.hasFailed = signalling.hasFailed)
    (hasLeft : signalling.hasLeft = true → after.hasLeft = true) : after.IsExplained where
  reason := by
    rw [alike.closeReason]
    exact explained.reason
  told waking := by
    rw [alike.closeReason]
    exact explained.told (alerts waking)
  asked := by
    rw [alike.closeReason, alike.closeRequested]
    exact fun asked none => hasLeft (explained.asked asked none)
  unbound := by
    rw [alike.state]
    exact fun unbound => hasLeft (explained.unbound unbound)
  disconnected := by
    rw [alike.state, hasFailed]
    exact fun disconnected => (explained.disconnected disconnected).imp_left hasLeft
  failed publishing := by
    rw [hasFailed]
    exact explained.failed (alerts publishing)

theorem IsExplained.write (explained : signalling.IsExplained) (frame : Frame) :
    (signalling.write frame).IsExplained := by
  unfold Signalling.write
  rcases signalling.link.put_cases frame with
    ⟨writer, _, same⟩ | ⟨error, _, same⟩ | ⟨reason, writer, _, same⟩
  · rw [same]
    exact explained.of_alike ⟨rfl, rfl, rfl⟩ (List.Subset.refl _) rfl id
  · rw [same]
    exact explained
  · rw [same]
    refine ⟨explained.reason, fun waking => explained.told ?_, explained.asked, explained.unbound,
      fun _ => Or.inr rfl, fun _ => rfl⟩
    exact List.mem_of_ne_of_mem (by decide) waking

theorem explain_lost {link : Link}
    (reason : link.closeReason = none ∨ link.closeReason = some .connectionLost) :
    (link.explain (some .connectionLost)).closeReason = some .connectionLost := by
  rcases reason with none | lost
  · rw [Link.explain, none]
    rfl
  · rw [Link.explain, lost]
    rfl

theorem mem_of_set {alert other : Alert} {alerts : List Alert} {task : Nat} (different : other ≠ alert)
    (member : other ∈ alerts.set task alert) : other ∈ alerts :=
  (List.mem_or_eq_of_mem_set member).resolve_right different

theorem IsExplained.tell (explained : signalling.IsExplained) (task : Nat) :
    (signalling.tell task).IsExplained := by
  unfold Signalling.tell
  cases found : signalling.alerts[task]? with
  | none => exact explained
  | some alert =>
      have member := List.mem_of_getElem? found
      cases alert with
      | publishing =>
          refine ⟨explained.reason, fun waking => explained.told (mem_of_set (by decide) waking),
            explained.asked, nofun, fun _ => Or.inr (explained.failed member), fun _ => ?_⟩
          exact explained.failed member
      | explaining =>
          have lost := explain_lost explained.reason
          refine ⟨Or.inr lost, fun _ => lost, fun _ none => ?_, explained.unbound, explained.disconnected,
            fun publishing => explained.failed (mem_of_set (by decide) publishing)⟩
          cases lost.symm.trans none
      | waking =>
          have lost := explained.told member
          refine ⟨explained.reason, fun waking => explained.told (List.mem_of_mem_eraseIdx waking),
            fun _ none => ?_, explained.unbound, explained.disconnected,
            fun publishing => explained.failed (List.mem_of_mem_eraseIdx publishing)⟩
          cases lost.symm.trans none

theorem IsExplained.of_listening (explained : signalling.IsExplained) {next : Link × Listener}
    (alike : signalling.link.Alike next.1) : (signalling.withListener next).IsExplained :=
  explained.of_alike alike (List.Subset.refl _) rfl id

theorem IsExplained.kept (explained : signalling.IsExplained)
    (goesOn : (signalling.take step).listener.outcome? = none) : (signalling.take step).IsExplained := by
  cases step with
  | write frame => exact explained.write frame
  | despair =>
      exact ⟨explained.reason, fun waking => explained.told (List.mem_of_ne_of_mem (by decide) waking),
        explained.asked, explained.unbound, explained.disconnected,
        fun publishing => explained.failed (List.mem_of_ne_of_mem (by decide) publishing)⟩
  | tell task => exact explained.tell task
  | accept => exact ⟨explained.reason, explained.told, explained.asked, nofun, nofun, explained.failed⟩
  | leave => exact explained.of_alike (.refl _) (List.Subset.refl _) rfl fun _ => rfl
  | publish state =>
      simp only [take]
      split
      · rename_i left
        exact ⟨explained.reason, explained.told, explained.asked, fun _ => left, fun _ => Or.inl left,
          explained.failed⟩
      · exact explained
  | wake =>
      simp only [take]
      split
      · rename_i left
        exact ⟨explained.reason, explained.told, fun _ _ => left, explained.unbound, explained.disconnected,
          explained.failed⟩
      · exact explained
  | abort =>
      simp only [take, abort] at goesOn ⊢
      split at goesOn
      · split at goesOn
        · rename_i ended
          rw [ended] at goesOn
          cases goesOn
        · cases goesOn
        · cases goesOn
      · rename_i stays
        rw [if_neg stays]
        exact explained
  | attend pending => exact explained.of_alike ⟨rfl, rfl, rfl⟩ (List.Subset.refl _) rfl id
  | shut => exact explained.of_alike ⟨rfl, rfl, rfl⟩ (List.Subset.refl _) rfl id
  | age time => exact explained.of_alike ⟨rfl, rfl, rfl⟩ (List.Subset.refl _) rfl id
  | hear event =>
      simp only [take] at goesOn ⊢
      split at goesOn
      · exact explained.of_listening (Listener.alike_hear goesOn)
      · exact explained
  | handled ending =>
      simp only [take] at goesOn ⊢
      split at goesOn
      · rename_i frame _
        rcases Listener.handled_cases signalling.link frame ending with ⟨_, alike⟩ | lost | ⟨_, _, done⟩
        · exact explained.of_listening alike
        · rw [withListener, lost] at goesOn
          cases goesOn
        · rw [withListener, done] at goesOn
          cases goesOn
      · exact explained
  | stop =>
      simp only [take] at goesOn ⊢
      split at goesOn
      · rcases Listener.stop_cases signalling.link with same | ⟨_, ended⟩
        · rw [same]
          exact explained.of_listening (.refl _)
        · rw [withListener, ended] at goesOn
          cases goesOn
      · exact explained

theorem listener_tell (signalling : Signalling) (task : Nat) :
    (signalling.tell task).listener = signalling.listener := by
  unfold tell
  split <;> rfl

theorem listener_write (signalling : Signalling) (frame : Frame) :
    (signalling.write frame).listener = signalling.listener := by
  unfold write
  split <;> rfl

theorem listener_take_of_ended {outcome : Except SessionError Unit}
    (ended : signalling.listener = .ended outcome) (step : Step) :
    (signalling.take step).listener = .ended outcome := by
  cases step with
  | write frame => rw [take, listener_write, ended]
  | tell task => rw [take, listener_tell, ended]
  | publish state =>
      simp only [take]
      split <;> exact ended
  | wake =>
      simp only [take]
      split <;> exact ended
  | abort =>
      simp only [take, abort, ended]
      split <;> exact ended
  | hear event => simp only [take, ended]
  | handled ending => simp only [take, ended]
  | stop => simp only [take, ended]
  | despair | accept | leave | attend _ | shut | age _ => exact ended

theorem IsExplained.run {steps : List Step} (explained : signalling.IsExplained)
    (goesOn : (signalling.run steps).listener.outcome? = none) : (signalling.run steps).IsExplained := by
  induction steps using List.reverseRecOn with
  | nil => exact explained
  | append_singleton steps step ih =>
      rw [run_append] at goesOn ⊢
      refine (ih ?_).kept goesOn
      cases listener : (signalling.run steps).listener with
      | ended outcome =>
          rw [run_cons, run_nil, listener_take_of_ended listener] at goesOn
          cases goesOn
      | reading | handling _ _ => rfl

end

/-- The steps have come to where the session is. Nobody is about to signal anything. -/
structure Mirrors (signalling : Signalling) (session : Session) : Prop where
  link : signalling.link = session.link
  listener : signalling.listener = session.listener
  calm : signalling.alerts = []
  parting : session.call.isParting = true → signalling.hasLeft = true

section

variable {signalling : Signalling} {session : Session} {move : Session.Move}

theorem exists_steps_of_act (signalling : Signalling) (calm : signalling.alerts = []) (act : Link.Act)
    (isDone : act.IsDone (signalling.hasLeft = true)) :
    ∃ steps hasFailed, signalling.run steps =
      { signalling with link := signalling.link.perform act, hasFailed } := by
  obtain ⟨link, listener, alerts, hasFailed, hasLeft⟩ := signalling
  cases calm
  cases act with
  | write frame =>
      rcases link.put_cases frame with ⟨writer, _, same⟩ | ⟨error, _, same⟩ | ⟨reason, writer, _, same⟩
      · refine ⟨[.write frame], hasFailed, ?_⟩
        simp only [run_cons, run_nil, take, write, Link.perform, Link.write, same]
      · refine ⟨[.write frame], hasFailed, ?_⟩
        simp only [run_cons, run_nil, take, write, Link.perform, Link.write, same]
      · refine ⟨[.write frame, .tell 0, .tell 0, .tell 0], true, ?_⟩
        simp only [run_cons, run_nil, take, write, Link.perform, Link.write, same]
        rfl
  | register commandId => exact ⟨[.attend (link.register commandId).2.pending], hasFailed, rfl⟩
  | withdraw handle => exact ⟨[.attend (link.withdraw handle).pending], hasFailed, rfl⟩
  | giveUp handle => exact ⟨[.attend (link.giveUp handle).2.pending], hasFailed, rfl⟩
  | failAll => exact ⟨[.attend link.failAll.pending], hasFailed, rfl⟩
  | sweep => exact ⟨[.attend link.sweep.pending], hasFailed, rfl⟩
  | setState state =>
      by_cases bound : state = .bound
      · rw [bound]
        exact ⟨[.accept], hasFailed, rfl⟩
      · have left : hasLeft = true := by
          cases state <;> first | exact isDone | contradiction
        rw [left]
        exact ⟨[.publish state], hasFailed, rfl⟩
  | requestClose reason =>
      cases reason with
      | some reason =>
          cases isDone
          exact ⟨[.despair, .tell 0, .tell 0], hasFailed, rfl⟩
      | none =>
          have left : hasLeft = true := isDone
          have unexplained : link.explain none = link := by rw [Link.explain, Option.or_none]
          refine ⟨[.wake], hasFailed, ?_⟩
          rw [Link.perform, Link.requestClose, unexplained, left]
          rfl
  | closeTransport => exact ⟨[.shut], hasFailed, rfl⟩
  | wait time => exact ⟨[.age time], hasFailed, rfl⟩

theorem exists_steps_of_reaches {after : Link} (calm : signalling.alerts = [])
    (reaches : signalling.link.Reaches (signalling.hasLeft = true) after) :
    ∃ steps hasFailed, signalling.run steps = { signalling with link := after, hasFailed } := by
  induction reaches with
  | refl => exact ⟨[], signalling.hasFailed, rfl⟩
  | @act middle _ act isDone ih =>
      obtain ⟨steps, hasFailed, came⟩ := ih
      obtain ⟨further, hasFailed, comes⟩ :=
        exists_steps_of_act { signalling with link := middle, hasFailed } calm act isDone
      refine ⟨steps ++ further, hasFailed, ?_⟩
      rw [run_append, came, comes]

theorem Mirrors.withListener (mirrors : signalling.Mirrors session) (next : Link × Listener) :
    (signalling.withListener next).Mirrors (session.withListener next) :=
  ⟨rfl, rfl, mirrors.calm, mirrors.parting⟩

theorem Mirrors.listen (mirrors : signalling.Mirrors session) (listening : move.isListening = true) :
    ∃ step, (signalling.take step).Mirrors (session.move move) ∧
      (signalling.take step).hasLeft = signalling.hasLeft := by
  cases move with
  | hear event =>
      refine ⟨.hear event, ?_⟩
      cases doing : session.listener with
      | reading =>
          simp only [take, Session.move, mirrors.listener, mirrors.link, doing]
          exact ⟨mirrors.withListener _, rfl⟩
      | handling _ _ | ended _ =>
          simp only [take, Session.move, mirrors.listener, doing]
          exact ⟨mirrors, trivial⟩
  | handled ending =>
      refine ⟨.handled ending, ?_⟩
      cases doing : session.listener with
      | handling _ frame =>
          simp only [take, Session.move, mirrors.listener, mirrors.link, doing]
          exact ⟨mirrors.withListener _, rfl⟩
      | reading | ended _ =>
          simp only [take, Session.move, mirrors.listener, doing]
          exact ⟨mirrors, trivial⟩
  | stop =>
      refine ⟨.stop, ?_⟩
      cases doing : session.listener with
      | reading =>
          simp only [take, Session.move, mirrors.listener, mirrors.link, doing]
          exact ⟨mirrors.withListener _, rfl⟩
      | handling _ _ | ended _ =>
          simp only [take, Session.move, mirrors.listener, doing]
          exact ⟨mirrors, trivial⟩
  | sweep =>
      have same : (session.move .sweep).link =
          { session.link with pending := (session.move .sweep).link.pending } := by
        simp only [Session.move]
        split <;> rfl
      refine ⟨.attend (session.move .sweep).link.pending, ⟨?_, ?_, mirrors.calm, ?_⟩, rfl⟩
      · rw [same, ← mirrors.link]
        rfl
      · simp only [take, Session.move, mirrors.listener]
        split <;> rfl
      · simp only [Session.move]
        split <;> exact mirrors.parting
  | _ => cases listening

theorem listener_task (session : Session) (isTask : move.isListening = false) :
    (session.move move).listener = session.listener ∨
      session.call.isParting = true ∧ session.listener.outcome? = none ∧
        (session.move move).listener = .ended (.error .connectionLost) := by
  by_cases cut : move = .giveUp ∧ ∃ result, session.call = .leaving result
  · obtain ⟨rfl, result, leaving⟩ := cut
    simp only [Session.move, Session.giveUp, leaving, Session.leave]
    cases session.listener with
    | ended outcome => exact Or.inl rfl
    | reading | handling _ _ => exact Or.inr ⟨rfl, rfl, rfl⟩
  · refine Or.inl (Session.listener_move isTask ?_)
    exact fun gaveUp result leaving => cut ⟨gaveUp, result, leaving⟩

theorem Mirrors.task (mirrors : signalling.Mirrors session) (isTask : move.isListening = false)
    (left : session.Leaves move → signalling.hasLeft = true) :
    ∃ steps, (signalling.run steps).Mirrors (session.move move) ∧
      (signalling.run steps).hasLeft = signalling.hasLeft := by
  have did : session.Leaves move ∨ session.call.isParting = true → signalling.hasLeft = true :=
    fun parts => parts.elim left mirrors.parting
  have reaches := session.reaches_task isTask did
  rw [← mirrors.link] at reaches
  obtain ⟨steps, hasFailed, came⟩ := exists_steps_of_reaches mirrors.calm reaches
  have parting : (session.move move).call.isParting = true → signalling.hasLeft = true :=
    fun parts => did ((session.signals_move move).isParting parts)
  rcases listener_task session isTask with same | ⟨leaving, going, ended⟩
  · refine ⟨steps, ?_, ?_⟩
    · rw [came]
      exact ⟨rfl, mirrors.listener.trans same.symm, mirrors.calm, parting⟩
    · rw [came]
  · have left := mirrors.parting leaving
    rw [← mirrors.listener] at going
    refine ⟨steps ++ [.abort], ?_, ?_⟩
    · rw [run_append, came]
      simp only [run_cons, run_nil, take, left, if_true, abort]
      split
      · rename_i ended
        rw [ended] at going
        cases going
      · exact ⟨rfl, ended.symm, mirrors.calm, fun _ => rfl⟩
      · exact ⟨rfl, ended.symm, mirrors.calm, fun _ => rfl⟩
    · rw [run_append, came]
      simp only [run_cons, run_nil, take, left, if_true, abort]
      split <;> rfl

theorem Mirrors.follow (mirrors : signalling.Mirrors session) (move : Session.Move) :
    ∃ steps, (signalling.run steps).Mirrors (session.move move) ∧
      ((signalling.run steps).hasLeft = true ↔ signalling.hasLeft = true ∨ session.Leaves move) := by
  cases listening : move.isListening with
  | true =>
      obtain ⟨step, after, left⟩ := mirrors.listen listening
      refine ⟨[step], after, ?_⟩
      have stays : ¬ session.Leaves move := by
        rintro ⟨_, rfl | rfl⟩ <;> cases listening
      rw [run_cons, run_nil, left, or_iff_left stays]
  | false =>
      by_cases leaves : session.Leaves move
      · have now : (signalling.take .leave).Mirrors session :=
          ⟨mirrors.link, mirrors.listener, mirrors.calm, fun _ => rfl⟩
        obtain ⟨steps, after, left⟩ := now.task listening fun _ => rfl
        refine ⟨.leave :: steps, after, ?_⟩
        rw [run_cons, left]
        exact iff_of_true rfl (Or.inr leaves)
      · obtain ⟨steps, after, left⟩ := mirrors.task listening fun impossible => absurd impossible leaves
        refine ⟨steps, after, ?_⟩
        rw [left, or_iff_left leaves]

theorem Mirrors.run (mirrors : signalling.Mirrors session) (moves : List Session.Move) :
    ∃ steps, (signalling.run steps).Mirrors (session.run moves) ∧
      ((signalling.run steps).hasLeft = true ↔
        signalling.hasLeft = true ∨ session.Happens Session.Leaves moves) := by
  induction moves generalizing signalling session with
  | nil => exact ⟨[], mirrors, (or_false _).symm ▸ Iff.rfl⟩
  | cons move moves ih =>
      obtain ⟨first, middle, leftFirst⟩ := mirrors.follow move
      obtain ⟨others, last, leftLater⟩ := ih middle
      refine ⟨first ++ others, ?_, ?_⟩
      · rw [run_append]
        exact last
      · rw [run_append, leftLater, leftFirst, Session.Happens, or_assoc]

end

def AnswersUnbind (signalling : Signalling) (step : Step) : Prop :=
  ∃ handler frame ending, signalling.listener = .handling handler frame ∧ frame.body = .unbind ∧
    step = .handled ending ∧
    (signalling.link.write (Listener.answerTo frame ending.status)).1 = .ok ()

/-- The end of the stream is read when a failed write has published that the session is disconnected, and
before the listener has looked for the request to stop that belongs to it. -/
def Overtakes (signalling : Signalling) (step : Step) : Prop :=
  signalling.listener = .reading ∧ step = .hear .closed ∧ signalling.link.state = .disconnected ∧
    signalling.hasFailed = true

structure EndsFairly (signalling : Signalling) (step : Step) : Prop where
  reported : ∀ outcome, signalling.listener.outcome? = none →
    (signalling.take step).listener = .ended outcome →
      outcome = .error .connectionLost ∨
      (∃ error, step = .hear (.desync error) ∧ outcome = .error (.protocolViolation error)) ∨
      outcome = .ok () ∧
        (signalling.hasLeft = true ∨ signalling.AnswersUnbind step ∨ signalling.Overtakes step)
  stopped : signalling.listener = .reading → signalling.link.closeRequested = true →
    signalling.link.closeReason = some .connectionLost →
      (signalling.take .stop).listener = .ended (.error .connectionLost)
  violated : ∀ (reader : Inbound) (length : UInt32), Frame.declared? reader.buffered = some length →
    length.toNat < 16 ∨ 65536 < length.toNat →
      ∃ error, reader.next? = some (.desync error, reader) ∧
        (signalling.listener = .reading → step = .hear (.desync error) →
          (signalling.take step).listener = .ended (.error (.protocolViolation error)))
  overtaken : signalling.Overtakes step → (signalling.take step).listener = .ended (.ok ())
  settled : ∀ outcome, signalling.listener = .ended outcome →
    (signalling.take step).listener = .ended outcome

section

variable {signalling : Signalling} {step : Step} {outcome : Except SessionError Unit}

theorem IsExplained.closing (explained : signalling.IsExplained) :
    Listener.closing signalling.link.state = .error .connectionLost ∨
      Listener.closing signalling.link.state = .ok () ∧
        (signalling.hasLeft = true ∨
          signalling.link.state = .disconnected ∧ signalling.hasFailed = true) := by
  cases state : signalling.link.state with
  | connected => exact Or.inl rfl
  | bound => exact Or.inl rfl
  | unbound => exact Or.inr ⟨rfl, Or.inl (explained.unbound state)⟩
  | disconnected =>
      -- The one case in which the state does not tell a good end from a bad one.
      exact Or.inr ⟨rfl, (explained.disconnected state).imp_right fun failed => ⟨rfl, failed⟩⟩

theorem IsExplained.takeClose (explained : signalling.IsExplained)
    (asked : signalling.link.closeRequested = true) :
    signalling.link.takeClose.1 = .error .connectionLost ∨
      signalling.link.takeClose.1 = .ok () ∧ signalling.hasLeft = true := by
  rcases explained.reason with none | lost
  · refine Or.inr ⟨?_, explained.asked asked none⟩
    simp only [Link.takeClose, none]
  · refine Or.inl ?_
    simp only [Link.takeClose, lost]

theorem IsExplained.reported (explained : signalling.IsExplained)
    (going : signalling.listener.outcome? = none)
    (ended : (signalling.take step).listener = .ended outcome) :
    outcome = .error .connectionLost ∨
      (∃ error, step = .hear (.desync error) ∧ outcome = .error (.protocolViolation error)) ∨
      outcome = .ok () ∧
        (signalling.hasLeft = true ∨ signalling.AnswersUnbind step ∨ signalling.Overtakes step) := by
  have stays : (signalling.take step).listener ≠ signalling.listener := by
    intro same
    rw [← same, ended] at going
    cases going
  cases step with
  | write frame => exact absurd (listener_write signalling frame) stays
  | tell task => exact absurd (listener_tell signalling task) stays
  | publish state =>
      refine absurd ?_ stays
      simp only [take]
      split <;> rfl
  | wake =>
      refine absurd ?_ stays
      simp only [take]
      split <;> rfl
  | despair | accept | leave | attend _ | shut | age _ => exact absurd rfl stays
  | abort =>
      simp only [take, abort] at ended
      split at ended
      · split at ended
        · rename_i already
          rw [already] at going
          cases going
        · cases ended
          exact Or.inl rfl
        · cases ended
          exact Or.inl rfl
      · rw [ended] at going
        cases going
  | hear event =>
      simp only [take] at ended
      split at ended
      · rename_i reading
        rcases Listener.end_hear ended with lost | ⟨error, same, violated⟩ | ⟨rfl, rfl⟩
        · exact Or.inl lost
        · exact Or.inr (Or.inl ⟨error, congrArg _ same, violated⟩)
        · rcases explained.closing with lost | ⟨well, left | ⟨disconnected, failed⟩⟩
          · exact Or.inl lost
          · exact Or.inr (Or.inr ⟨well, Or.inl left⟩)
          · exact Or.inr (Or.inr ⟨well, Or.inr (Or.inr ⟨reading, rfl, disconnected, failed⟩)⟩)
      · rw [ended] at going
        cases going
  | handled ending =>
      simp only [take] at ended
      split at ended
      · rename_i handler frame handling
        rcases Listener.handled_cases signalling.link frame ending with
          ⟨goesOn, _⟩ | lost | ⟨unbind, wrote, done⟩
        · have came : (Listener.handled signalling.link frame ending).2 = .ended outcome := ended
          rw [came] at goesOn
          cases goesOn
        · cases lost.symm.trans ended
          exact Or.inl rfl
        · cases done.symm.trans ended
          exact Or.inr (Or.inr ⟨rfl, Or.inr (Or.inl ⟨handler, frame, ending, handling, unbind, rfl, wrote⟩)⟩)
      · rw [ended] at going
        cases going
  | stop =>
      simp only [take] at ended
      split at ended
      · rcases Listener.stop_cases signalling.link with same | ⟨asked, found⟩
        · rw [same] at ended
          cases ended
        · cases found.symm.trans ended
          exact (explained.takeClose asked).imp_right fun ⟨well, left⟩ => Or.inr ⟨well, Or.inl left⟩
      · rw [ended] at going
        cases going

end

theorem mirrors_starting (config : SessionConfig) (handlers : HandlerTable) (sink : Sink) :
    (starting config handlers sink).Mirrors (Session.starting config handlers sink) :=
  ⟨rfl, rfl, rfl, nofun⟩

end Signalling

namespace Session

/-- In every order of events a session that the application has not left, and whose SMS centre has not
been answered an unbind, ends with an error: one that tells of a length which no frame has, or that the
connection is lost. Only when the end of the stream overtakes a request to stop it ends well. Whatever a
session does is a series of the steps that this is about. -/
theorem ends_fairly (config : SessionConfig) (handlers : HandlerTable) (sink : Sink) :
    (∀ steps step, ((Signalling.starting config handlers sink).run steps).EndsFairly step) ∧
    ∀ moves, ∃ steps,
      ((Signalling.starting config handlers sink).run steps).Mirrors
        ((starting config handlers sink).run moves) ∧
      (((Signalling.starting config handlers sink).run steps).hasLeft = true ↔
        (starting config handlers sink).Happens Leaves moves) := by
  refine ⟨fun steps step => ⟨?_, ?_, ?_, ?_, ?_⟩, fun moves => ?_⟩
  · intro outcome going ended
    have explained := (Signalling.explained_starting config handlers sink).run going
    exact explained.reported going ended
  · intro reading asked lost
    simp only [Signalling.take, reading, Signalling.withListener, Listener.stop, asked, if_true,
      Link.takeClose, lost, Listener.finish]
  · intro reader length declared outside
    refine ⟨_, Inbound.desync_of_declared? declared outside, ?_⟩
    rintro reading rfl
    rw [Signalling.take, reading]
    rfl
  · rintro ⟨reading, rfl, disconnected, _⟩
    simp only [Signalling.take, reading, Signalling.withListener, Listener.hear, Listener.finish,
      disconnected, Listener.closing]
  · exact fun outcome ended => Signalling.listener_take_of_ended ended step
  · obtain ⟨steps, mirrors, left⟩ := (Signalling.mirrors_starting config handlers sink).run moves
    refine ⟨steps, mirrors, left.trans ?_⟩
    exact or_iff_right Bool.false_ne_true

/-- A transport that takes a bind and nothing more, which an enquire_link finds out. It has published that
the session is disconnected, and has still to ask for it to be closed. -/
def failingSteps : List Signalling.Step :=
  [.attend (PendingTable.register {} .bindTransceiver 0).2,
   .write ⟨.ok, 1, .bindTransceiver { systemId := "esme", password := "secret" }⟩,
   .hear (.frame ⟨.ok, 1, .bindTransceiverResp {}⟩), .handled (.returned .ok), .accept,
   .write ⟨.ok, 2, .enquireLink⟩, .tell 0]

/-- The listener reads the end of the stream before it looks for a request to stop, and all is reported to
be well, be the request there by then or not. Otherwise the connection would be lost. -/
theorem ended_well_after_failure :
    let session := (Signalling.starting {} .standard { room := some 33 }).run failingSteps
    session.hasLeft = false ∧ ¬ session.AnswersUnbind (.hear .closed) ∧ session.hasFailed = true ∧
      (session.take (.hear .closed)).listener = .ended (.ok ()) ∧
      (session.run [.tell 0, .tell 0, .hear .closed]).listener = .ended (.ok ()) ∧
      (session.run [.tell 0, .tell 0, .stop]).listener = .ended (.error .connectionLost) := by
  refine ⟨rfl, ?_, rfl, rfl, rfl, rfl⟩
  rintro ⟨_, _, _, _, _, impossible, _⟩
  cases impossible

end Session

end Smpp
