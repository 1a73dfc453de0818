import Smpp.Proofs.Session.Binding

/-!
The pings of a session. What is sent and what is learnt of it makes a history, and the counters of the
keep-alive say no more and no less than that. From its history follows when the keep-alive gives up: where as
many failures in a row as the settings allow have come together, and nowhere else, unless the settings allow
none at all.
-/

namespace Smpp

inductive PingEvent
  | sent
  | concluded (outcome : Outcome)

namespace PingEvent

def isSent : PingEvent → Bool
  | sent => true
  | concluded _ => false

def isPong : PingEvent → Bool
  | sent => false
  | concluded outcome => Outcome.isPong outcome

/-- The ping has failed, and there is still somebody to ask. -/
def isFailure : PingEvent → Bool
  | sent => false
  | concluded outcome => !Outcome.isPong outcome && !Outcome.isFatal outcome

def isConcluded : PingEvent → Bool
  | sent => false
  | concluded _ => true

def unanswered (events : List PingEvent) : Nat :=
  (events.reverse.takeWhile fun event => !event.isPong).countP isFailure

theorem unanswered_concat (events : List PingEvent) (event : PingEvent) :
    unanswered (events ++ [event]) =
      if event.isPong then 0 else unanswered events + if event.isFailure then 1 else 0 := by
  unfold unanswered
  rw [List.reverse_append, List.reverse_singleton, List.singleton_append, List.takeWhile_cons]
  by_cases pong : event.isPong
  · rw [pong]
    rfl
  · rw [if_neg pong, if_pos (by simpa using pong), List.countP_cons]

theorem unanswered_sent (events : List PingEvent) : unanswered (events ++ [.sent]) = unanswered events := by
  rw [unanswered_concat]
  rfl

theorem countP_isPong_le (events : List PingEvent) : events.countP isPong ≤ events.countP isConcluded := by
  refine List.countP_mono_left fun event _ pong => ?_
  cases event with
  | sent => cases pong
  | concluded outcome => rfl

theorem unanswered_le (events : List PingEvent) : unanswered events ≤ events.countP isConcluded := by
  have inside := (List.takeWhile_sublist (fun event : PingEvent => !event.isPong) (l := events.reverse)).countP_le
    (p := isFailure)
  rw [List.countP_reverse] at inside
  refine inside.trans (List.countP_mono_left fun event _ failure => ?_)
  cases event with
  | sent => cases failure
  | concluded outcome => rfl

theorem unanswered_of_sent {events : List PingEvent} (sent : ∀ event ∈ events, event.isSent = true) :
    unanswered events = 0 := by
  refine List.countP_eq_zero.mpr fun event member => ?_
  have known := sent event (List.mem_reverse.mp (List.takeWhile_sublist _ |>.subset member))
  cases event with
  | sent => exact Bool.false_ne_true
  | concluded outcome => cases known

end PingEvent

open PingEvent (unanswered)

theorem Outcome.not_fatal_of_pong {outcome : Outcome} (pong : Outcome.isPong outcome = true) :
    Outcome.isFatal outcome = false := by
  cases outcome with
  | ok frame => rfl
  | error error => cases pong

namespace KeepAlive

variable {keepAlive : KeepAlive} {events : List PingEvent}

structure Tallies (keepAlive : KeepAlive) (events : List PingEvent) : Prop where
  pings : keepAlive.pings = events.countP PingEvent.isSent
  pongs : keepAlive.pongs = events.countP PingEvent.isPong
  failures : keepAlive.failures = unanswered events

theorem Tallies.sent (tallies : keepAlive.Tallies events) (now : Nat) :
    (keepAlive.sent now).Tallies (events ++ [.sent]) where
  pings := by
    rw [List.countP_append, ← tallies.pings]
    rfl
  pongs := by
    rw [List.countP_append, ← tallies.pongs]
    rfl
  failures := by
    rw [PingEvent.unanswered_sent, ← tallies.failures]
    rfl

theorem learn_eq (keepAlive : KeepAlive) (outcome : Outcome) :
    (keepAlive.learn outcome).1 =
      if Outcome.isFatal outcome then keepAlive
      else if Outcome.isPong outcome then keepAlive.succeeded else keepAlive.failed := by
  unfold learn
  split <;> rfl

theorem config_learn (keepAlive : KeepAlive) (outcome : Outcome) :
    (keepAlive.learn outcome).1.config = keepAlive.config := by
  rw [learn_eq]
  split
  · rfl
  · split <;> rfl

theorem Tallies.concluded {after : KeepAlive} {outcome : Outcome} (tallies : keepAlive.Tallies events)
    (pings : after.pings = keepAlive.pings)
    (pongs : after.pongs = keepAlive.pongs + if Outcome.isPong outcome then 1 else 0)
    (failures : after.failures =
      if Outcome.isPong outcome then 0
      else keepAlive.failures + if (PingEvent.concluded outcome).isFailure then 1 else 0) :
    after.Tallies (events ++ [.concluded outcome]) where
  pings := by
    rw [List.countP_append, ← tallies.pings]
    exact pings
  pongs := by
    rw [List.countP_append, ← tallies.pongs, List.countP_singleton]
    exact pongs
  failures := by
    rw [PingEvent.unanswered_concat, ← tallies.failures]
    exact failures

theorem Tallies.learn (tallies : keepAlive.Tallies events) (outcome : Outcome) :
    (keepAlive.learn outcome).1.Tallies (events ++ [.concluded outcome]) := by
  rw [learn_eq]
  cases pong : Outcome.isPong outcome with
  | true =>
      have mild := Outcome.not_fatal_of_pong pong
      apply tallies.concluded <;> simp [pong, mild, succeeded]
  | false =>
      cases fatal : Outcome.isFatal outcome <;>
        apply tallies.concluded <;> simp [pong, fatal, failed, PingEvent.isFailure]

theorem verdict_learn (keepAlive : KeepAlive) (outcome : Outcome) :
    (keepAlive.learn outcome).2 =
      if Outcome.isFatal outcome then .stop
      else if keepAlive.config.mostFailures ≤ (keepAlive.learn outcome).1.failures then .giveUp else .goOn := by
  unfold learn
  by_cases fatal : Outcome.isFatal outcome = true
  · rw [if_pos fatal, if_pos fatal]
  · simp only [if_neg fatal, hasFailed, decide_eq_true_eq]
    cases Outcome.isPong outcome <;> rfl

end KeepAlive

def PingPhase.isActive : PingPhase → Bool
  | resting | asking _ => true
  | off | ended => false

def PingPhase.isAsking : PingPhase → Bool
  | asking _ => true
  | off | resting | ended => false

theorem Pinger.isAsking_learn (link : Link) (pinger : Pinger) (outcome : Outcome) :
    (Pinger.learn link pinger outcome).2.phase.isAsking = false := by
  unfold Pinger.learn
  split <;> rfl

theorem Link.alike_of_sent {link after : Link} {body : Body} {handle : PendingHandle}
    (sent : link.send body = (.ok handle, after)) : link.Alike after := by
  rcases link.send_cases body with ⟨writer, _, same⟩ | ⟨error, _, same, _⟩
  · rw [same] at sent
    cases sent
    exact ⟨rfl, rfl, rfl⟩
  · rw [same] at sent
    cases sent

theorem Pinger.Spares.kept {before after : Pinger} (spares : before.Spares after) :
    after.keepAlive = before.keepAlive ∧ (after.phase = before.phase ∨ after.phase.isActive = false) := by
  rcases spares with rfl | rfl
  · exact ⟨rfl, Or.inl rfl⟩
  · exact ⟨rfl, Or.inr rfl⟩

namespace Session

def pingEvents (session : Session) : Move → List PingEvent
  | .ask =>
      match session.pinger.phase with
      | .resting =>
          if session.link.state = .bound then
            match (session.link.send .enquireLink).1 with
            | .ok _ => [.sent]
            | .error error => [.sent, .concluded (.error error)]
          else []
      | _ => []
  | .learn =>
      match session.pinger.phase with
      | .asking handle =>
          match session.link.pending.outcome? handle with
          | some outcome => [.concluded outcome]
          | none => []
      | _ => []
  | .miss =>
      match session.pinger.phase with
      | .asking handle => [.concluded (session.link.giveUp handle).1]
      | _ => []
  | _ => []

def pingHistory (session : Session) : List Move → List PingEvent
  | [] => []
  | move :: moves => session.pingEvents move ++ (session.move move).pingHistory moves

/-- The keep-alive learns what has become of a ping, and this is what it finds the link like. A ping that cannot
be sent it learns of at once. -/
inductive Learns (session : Session) : Move → Outcome → Link → Prop
  | unsent {error : SessionError} {link : Link} (resting : session.pinger.phase = .resting)
      (bound : session.link.state = .bound) (failed : session.link.send .enquireLink = (.error error, link)) :
      Learns session .ask (.error error) link
  | answered {handle : PendingHandle} {outcome : Outcome} (asking : session.pinger.phase = .asking handle)
      (resolved : session.link.pending.outcome? handle = some outcome) : Learns session .learn outcome session.link
  | missed {handle : PendingHandle} (asking : session.pinger.phase = .asking handle) :
      Learns session .miss (session.link.giveUp handle).1 (session.link.giveUp handle).2

inductive Drives (session : Session) : Move → Prop
  | spares {move : Move} (events : session.pingEvents move = [])
      (spares : session.pinger.Spares (session.move move).pinger) : Drives session move
  | starts {move : Move} {handle : PendingHandle} (events : session.pingEvents move = [])
      (waiting : session.call = .awaiting .bind handle)
      (starts : (session.move move).pinger = session.pinger.start) : Drives session move
  | ends (resting : session.pinger.phase = .resting) (events : session.pingEvents .ask = [])
      (ends : (session.move .ask).pinger = { session.pinger with phase := .ended }) : Drives session .ask
  | sends {handle : PendingHandle} (resting : session.pinger.phase = .resting)
      (events : session.pingEvents .ask = [.sent])
      (sends : (session.move .ask).pinger = ⟨session.pinger.keepAlive.sent session.link.now, .asking handle⟩) :
      Drives session .ask
  | learns {move : Move} {outcome : Outcome} {link : Link} (learns : session.Learns move outcome link) :
      Drives session move

section

variable {session : Session} {move : Move}

@[simp] theorem pingHistory_nil (session : Session) : session.pingHistory [] = [] := rfl

@[simp] theorem pingHistory_cons (session : Session) (move : Move) (moves : List Move) :
    session.pingHistory (move :: moves) = session.pingEvents move ++ (session.move move).pingHistory moves := rfl

theorem pingHistory_append (session : Session) (first second : List Move) :
    session.pingHistory (first ++ second) =
      session.pingHistory first ++ (session.run first).pingHistory second := by
  induction first generalizing session with
  | nil => rfl
  | cons move moves ih => rw [List.cons_append, pingHistory_cons, pingHistory_cons, ih, List.append_assoc, run_cons]

theorem pingHistory_concat (session : Session) (moves : List Move) (move : Move) :
    session.pingHistory (moves ++ [move]) = session.pingHistory moves ++ (session.run moves).pingEvents move := by
  rw [pingHistory_append, pingHistory_cons, pingHistory_nil, List.append_nil]

theorem pingEvents_of_inactive (inactive : session.pinger.phase.isActive = false) (move : Move) :
    session.pingEvents move = [] := by
  cases phase : session.pinger.phase with
  | resting => rw [phase] at inactive; cases inactive
  | asking handle => rw [phase] at inactive; cases inactive
  | off => cases move <;> simp only [pingEvents, phase]
  | ended => cases move <;> simp only [pingEvents, phase]

theorem Learns.active {outcome : Outcome} {link : Link} (learns : session.Learns move outcome link) :
    session.pinger.phase.isActive = true := by
  cases learns with
  | unsent resting _ _ => rw [resting]; rfl
  | answered asking _ => rw [asking]; rfl
  | missed asking => rw [asking]; rfl

theorem Learns.taken {outcome : Outcome} {link : Link} (learns : session.Learns move outcome link) :
    ∃ keepAlive earlier, session.pingEvents move = earlier ++ [.concluded outcome] ∧
      (earlier = [] ∧ keepAlive = session.pinger.keepAlive ∨
        earlier = [.sent] ∧ keepAlive = session.pinger.keepAlive.sent session.link.now) ∧
      session.move move = session.withPinger (Pinger.learn link ⟨keepAlive, session.pinger.phase⟩ outcome) := by
  cases learns with
  | unsent resting bound failed =>
      refine ⟨_, [.sent], ?_, Or.inr ⟨rfl, rfl⟩, ?_⟩
      · simp only [pingEvents, resting, if_pos bound, failed]
        rfl
      · simp only [Session.move, resting, Pinger.ask, if_pos bound, failed]
  | answered asking resolved =>
      refine ⟨_, [], ?_, Or.inl ⟨rfl, rfl⟩, ?_⟩
      · simp only [pingEvents, asking, resolved]
        rfl
      · simp only [Session.move, asking, resolved]
        rw [← asking]
  | missed asking =>
      refine ⟨_, [], ?_, Or.inl ⟨rfl, rfl⟩, ?_⟩
      · simp only [pingEvents, asking]
        rfl
      · simp only [Session.move, asking]
        rw [← asking]

theorem Learns.unanswered_eq {outcome : Outcome} {link : Link} (learns : session.Learns move outcome link)
    (events : List PingEvent) :
    unanswered (events ++ session.pingEvents move) =
      if Outcome.isPong outcome then 0
      else unanswered events + if (PingEvent.concluded outcome).isFailure then 1 else 0 := by
  obtain ⟨_, earlier, learnt, counted, _⟩ := learns.taken
  have before : unanswered (events ++ earlier) = unanswered events := by
    rcases counted with ⟨rfl, _⟩ | ⟨rfl, _⟩
    · rw [List.append_nil]
    · exact PingEvent.unanswered_sent events
  rw [learnt, ← List.append_assoc, PingEvent.unanswered_concat, before]
  rfl

theorem drives_of_conclude {middle : Session} {purpose : Purpose} {handle : PendingHandle} {outcome : Outcome}
    (events : session.pingEvents move = []) (waiting : session.call = .awaiting purpose handle)
    (same : session.move move = middle.conclude purpose outcome) (pinger : middle.pinger = session.pinger) :
    session.Drives move := by
  rcases middle.spares_conclude purpose outcome with spares | ⟨rfl, _, starts⟩
  · refine .spares events ?_
    rw [same, ← pinger]
    exact spares
  · refine .starts events waiting ?_
    rw [same, starts, pinger]

theorem drives_of_same (events : session.pingEvents move = [])
    (same : (session.move move).pinger = session.pinger) : session.Drives move := .spares events (Or.inl same)

theorem drives_resume (session : Session) : session.Drives .resume := by
  cases call : session.call with
  | awaiting purpose handle =>
      cases resolved : session.link.pending.outcome? handle with
      | some outcome =>
          have same : session.move .resume = session.conclude purpose outcome := by
            simp only [Session.move, resume, call, resolved]
          exact drives_of_conclude rfl call same rfl
      | none => exact drives_of_same rfl (by simp only [Session.move, resume, call, resolved])
  | leaving result =>
      cases listener : session.listener <;>
        exact drives_of_same rfl (by simp only [Session.move, resume, call, listener, leave])
  | joining =>
      cases listener : session.listener with
      | ended outcome =>
          refine .spares rfl (Or.inr ?_)
          simp only [Session.move, resume, call, listener]
          rfl
      | _ => exact drives_of_same rfl (by simp only [Session.move, resume, call, listener])
  | _ => exact drives_of_same rfl (by simp only [Session.move, resume, call])

theorem drives_giveUp (session : Session) : session.Drives .giveUp := by
  cases call : session.call with
  | awaiting purpose handle =>
      have same : session.move .giveUp =
          ({ session with link := (session.link.giveUp handle).2 } : Session).conclude purpose
            (session.link.giveUp handle).1 := by
        simp only [Session.move, giveUp, call]
      exact drives_of_conclude rfl call same rfl
  | leaving result => exact drives_of_same rfl (by simp only [Session.move, giveUp, call, leave])
  | _ => exact drives_of_same rfl (by simp only [Session.move, giveUp, call])

theorem drives_ask (session : Session) : session.Drives .ask := by
  cases phase : session.pinger.phase with
  | resting =>
      by_cases bound : session.link.state = .bound
      · cases sending : session.link.send .enquireLink with
        | mk sent link =>
            cases sent with
            | error error => exact .learns (.unsent phase bound sending)
            | ok handle =>
                refine @Drives.sends session handle phase ?_ ?_
                · simp only [pingEvents, phase, if_pos bound, sending]
                · simp only [Session.move, phase, Pinger.ask, if_pos bound, sending]
                  rfl
      · refine .ends phase ?_ ?_
        · simp only [pingEvents, phase, if_neg bound]
        · simp only [Session.move, phase, Pinger.ask, if_neg bound]
          rfl
  | _ => exact drives_of_same (by simp only [pingEvents, phase]) (by simp only [Session.move, phase])

theorem drives_learn (session : Session) : session.Drives .learn := by
  cases phase : session.pinger.phase with
  | asking handle =>
      cases resolved : session.link.pending.outcome? handle with
      | some outcome => exact .learns (.answered phase resolved)
      | none =>
          exact drives_of_same (by simp only [pingEvents, phase, resolved])
            (by simp only [Session.move, phase, resolved])
  | _ => exact drives_of_same (by simp only [pingEvents, phase]) (by simp only [Session.move, phase])

theorem drives_miss (session : Session) : session.Drives .miss := by
  cases phase : session.pinger.phase with
  | asking handle => exact .learns (.missed phase)
  | _ => exact drives_of_same (by simp only [pingEvents, phase]) (by simp only [Session.move, phase])

theorem drives_move (session : Session) (move : Move) : session.Drives move := by
  cases move with
  | start request =>
      refine .spares rfl ?_
      simp only [Session.move]
      split
      · exact Or.inl rfl
      · exact session.spares_start request
  | resume => exact session.drives_resume
  | giveUp => exact session.drives_giveUp
  | drop => exact drives_of_same rfl (by simp only [Session.move]; split <;> rfl)
  | hear event => exact drives_of_same rfl (by simp only [Session.move]; split <;> rfl)
  | handled ending => exact drives_of_same rfl (by simp only [Session.move]; split <;> rfl)
  | stop => exact drives_of_same rfl (by simp only [Session.move]; split <;> rfl)
  | sweep => exact drives_of_same rfl (by simp only [Session.move]; split <;> rfl)
  | ask => exact session.drives_ask
  | learn => exact session.drives_learn
  | miss => exact session.drives_miss
  | age time => exact drives_of_same rfl rfl

/-- What the keep-alive makes of an outcome with so many failures in a row: it ends at once when there is nobody
to ask any more, it has the session closed when there are too many, and else it goes on. -/
structure Reacts (limit failures : Nat) (outcome : Outcome) (link : Link) (after : Session) : Prop where
  stops : Outcome.isFatal outcome = true → after.link = link ∧ after.pinger.phase = .ended
  closes : Outcome.isFatal outcome = false → limit ≤ failures →
    after.link = link.requestClose (some .connectionLost) ∧ after.pinger.phase = .ended
  rests : Outcome.isFatal outcome = false → failures < limit → after.link = link ∧ after.pinger.phase = .resting

theorem Reacts.ended {limit failures : Nat} {outcome : Outcome} {link : Link} {after : Session}
    (reacts : Reacts limit failures outcome link after) (decided : Outcome.isFatal outcome = true ∨ limit ≤ failures) :
    after.pinger.phase = .ended := by
  cases fatal : Outcome.isFatal outcome with
  | true => exact (reacts.stops fatal).2
  | false =>
      rw [fatal] at decided
      exact (reacts.closes fatal (decided.resolve_left Bool.false_ne_true)).2

theorem reacts_learn (session : Session) (link : Link) (pinger : Pinger) (outcome : Outcome) :
    Reacts pinger.keepAlive.config.mostFailures (pinger.keepAlive.learn outcome).1.failures outcome link
        (session.withPinger (Pinger.learn link pinger outcome)) ∧
      (Pinger.learn link pinger outcome).2.keepAlive = (pinger.keepAlive.learn outcome).1 := by
  have verdict := pinger.keepAlive.verdict_learn outcome
  unfold Pinger.learn
  cases learnt : pinger.keepAlive.learn outcome with
  | mk keepAlive decision =>
      rw [learnt] at verdict
      by_cases fatal : Outcome.isFatal outcome = true
      · rw [if_pos fatal] at verdict
        cases verdict
        refine ⟨⟨fun _ => ⟨rfl, rfl⟩, fun mild => ?_, fun mild => ?_⟩, rfl⟩
        · rw [fatal] at mild
          cases mild
        · rw [fatal] at mild
          cases mild
      · rw [if_neg fatal] at verdict
        by_cases reached : pinger.keepAlive.config.mostFailures ≤ keepAlive.failures
        · rw [if_pos reached] at verdict
          cases verdict
          refine ⟨⟨fun impossible => absurd impossible fatal, fun _ _ => ⟨rfl, rfl⟩, fun _ within => ?_⟩, rfl⟩
          exact absurd reached (Nat.not_le_of_lt within)
        · rw [if_neg reached] at verdict
          cases verdict
          refine ⟨⟨fun impossible => absurd impossible fatal, fun _ beyond => ?_, fun _ _ => ⟨rfl, rfl⟩⟩, rfl⟩
          exact absurd beyond reached

theorem Learns.reacts {outcome : Outcome} {link : Link} {events : List PingEvent}
    (learns : session.Learns move outcome link) (tallies : session.pinger.keepAlive.Tallies events) :
    Reacts session.pinger.keepAlive.config.mostFailures (unanswered (events ++ session.pingEvents move)) outcome
        link (session.move move) ∧
      (session.move move).pinger.keepAlive.Tallies (events ++ session.pingEvents move) ∧
      (session.move move).pinger.keepAlive.config = session.pinger.keepAlive.config := by
  obtain ⟨keepAlive, earlier, learnt, counted, same⟩ := learns.taken
  obtain ⟨reacts, counts⟩ := session.reacts_learn link ⟨keepAlive, session.pinger.phase⟩ outcome
  have before : keepAlive.Tallies (events ++ earlier) ∧ keepAlive.config = session.pinger.keepAlive.config := by
    rcases counted with ⟨rfl, rfl⟩ | ⟨rfl, rfl⟩
    · rw [List.append_nil]
      exact ⟨tallies, rfl⟩
    · exact ⟨tallies.sent _, rfl⟩
  have after := before.1.learn outcome
  rw [learnt, ← List.append_assoc, same, ← after.failures, ← before.2]
  refine ⟨reacts, ?_, ?_⟩
  · change (Pinger.learn link ⟨keepAlive, session.pinger.phase⟩ outcome).2.keepAlive.Tallies _
    rw [counts]
    exact after
  · change (Pinger.learn link ⟨keepAlive, session.pinger.phase⟩ outcome).2.keepAlive.config = _
    rw [counts]
    exact keepAlive.config_learn outcome

structure IsPastBind (session : Session) : Prop where
  state : session.link.state ≠ .connected
  call : ∀ handle, session.call ≠ .awaiting .bind handle

theorem IsOrderly.pastBind (orderly : session.IsOrderly) (bound : session.link.state = .bound) :
    session.IsPastBind where
  state connected := by
    rw [bound] at connected
    cases connected
  call handle waiting := by
    rcases orderly.binding handle waiting with connected | disconnected
    · rw [bound] at connected
      cases connected
    · rw [bound] at disconnected
      cases disconnected

theorem IsPastBind.step (past : session.IsPastBind) (orderly : session.IsOrderly) (move : Move) :
    (session.move move).IsPastBind ∧
      ((session.move move).link.state = .bound → session.link.state = .bound) := by
  have call : ∀ handle, (session.move move).call ≠ .awaiting .bind handle := by
    intro handle waiting
    rcases (session.signals_move move).waiting_cases waiting with earlier | ⟨_, _, connected, _⟩
    · exact past.call handle earlier
    · exact past.state connected
  rcases (session.signals_move move).state_cases orderly with
    ⟨same | leads, bound⟩ | ⟨handle, _, _, _, waiting, _⟩
  · exact ⟨⟨fun connected => past.state (same.symm.trans connected), call⟩, bound⟩
  · refine ⟨⟨fun connected => ?_, call⟩, bound⟩
    rw [connected] at leads
    exact SessionState.not_leads_connected _ leads
  · exact absurd waiting (past.call handle)

/-- The counters are what the events say, there are none before the session is bound, and while the keep-alive
goes on no event has brought the failures to the limit. -/
structure IsWatched (settings : KeepAliveConfig) (session : Session) (events : List PingEvent) : Prop where
  config : session.pinger.keepAlive.config = settings
  tallies : session.pinger.keepAlive.Tallies events
  early : ¬ session.IsPastBind → session.pinger.phase = .off ∧ events = []
  within : session.pinger.phase.isActive = true →
    (∀ event ∈ events, event.isSent = true) ∨ unanswered events < settings.mostFailures

variable {settings : KeepAliveConfig} {events : List PingEvent}

theorem IsWatched.pastBind_of_active (watched : IsWatched settings session events)
    (active : session.pinger.phase.isActive = true) : session.IsPastBind := by
  by_contra early
  rw [(watched.early early).1] at active
  cases active

theorem IsWatched.early_step (watched : IsWatched settings session events) (orderly : session.IsOrderly)
    (move : Move) (early : ¬ (session.move move).IsPastBind) :
    (session.move move).pinger.phase = .off ∧ events ++ session.pingEvents move = [] := by
  have before : ¬ session.IsPastBind := fun past => early (past.step orderly move).1
  obtain ⟨off, none⟩ := watched.early before
  have inactive : session.pinger.phase.isActive = false := by rw [off]; rfl
  rw [pingEvents_of_inactive inactive, none]
  rcases off_move off move with stays | bound
  · exact ⟨stays, rfl⟩
  · exact absurd ((orderly.step (session.signals_move move)).pastBind bound) early

theorem IsWatched.step (watched : IsWatched settings session events) (orderly : session.IsOrderly) (move : Move) :
    IsWatched settings (session.move move) (events ++ session.pingEvents move) := by
  have early := watched.early_step orderly move
  cases session.drives_move move with
  | spares nothing spares =>
      obtain ⟨keepAlive, phase⟩ := spares.kept
      rw [nothing, List.append_nil] at early ⊢
      refine ⟨keepAlive ▸ watched.config, keepAlive ▸ watched.tallies, early, fun active => ?_⟩
      rcases phase with same | inactive
      · exact watched.within (same ▸ active)
      · rw [inactive] at active
        cases active
  | starts nothing waiting starts =>
      -- The counters begin again at zero, and so far there is nothing that they could have counted.
      have none : events = [] := (watched.early fun past => past.call _ waiting).2
      rw [nothing, none, List.append_nil] at early ⊢
      have tallies : session.pinger.start.keepAlive.Tallies [] ∧
          session.pinger.start.keepAlive.config = settings := by
        unfold Pinger.start
        split
        · exact ⟨⟨rfl, rfl, rfl⟩, watched.config⟩
        · exact ⟨none ▸ watched.tallies, watched.config⟩
      refine ⟨starts ▸ tallies.2, starts ▸ tallies.1, early, fun _ => Or.inl ?_⟩
      intro event member
      cases member
  | ends resting nothing ends =>
      rw [nothing, List.append_nil] at early ⊢
      refine ⟨ends ▸ watched.config, ends ▸ watched.tallies, early, fun active => ?_⟩
      rw [ends] at active
      cases active
  | sends resting sent sends =>
      rw [sent] at early ⊢
      have active : session.pinger.phase.isActive = true := by rw [resting]; rfl
      refine ⟨sends ▸ watched.config, sends ▸ watched.tallies.sent _, early, fun _ => ?_⟩
      rcases watched.within active with quiet | within
      · refine Or.inl fun event member => ?_
        rcases List.mem_append.mp member with earlier | last
        · exact quiet event earlier
        · rw [List.mem_singleton.mp last]
          rfl
      · exact Or.inr (PingEvent.unanswered_sent events ▸ within)
  | learns learns =>
      obtain ⟨reacts, tallies, config⟩ := learns.reacts watched.tallies
      refine ⟨config.trans watched.config, tallies, early, fun active => Or.inr ?_⟩
      -- A keep-alive that goes on has found its counter below the limit.
      rw [watched.config] at reacts
      by_contra beyond
      rw [reacts.ended (Or.inr (Nat.le_of_not_lt beyond))] at active
      cases active

theorem IsWatched.run (watched : IsWatched settings session events) (orderly : session.IsOrderly)
    (moves : List Move) : IsWatched settings (session.run moves) (events ++ session.pingHistory moves) := by
  induction moves generalizing session events with
  | nil =>
      rw [pingHistory_nil, List.append_nil]
      exact watched
  | cons move moves ih =>
      rw [pingHistory_cons, ← List.append_assoc, run_cons]
      exact ih (watched.step orderly move) (orderly.step (session.signals_move move))

theorem watched_starting (config : SessionConfig) (handlers : HandlerTable) (sink : Sink) :
    IsWatched config.keepAlive (starting config handlers sink) [] where
  config := rfl
  tallies := ⟨rfl, rfl, rfl⟩
  early _ := ⟨rfl, rfl⟩
  within _ := by
    refine Or.inl fun event member => ?_
    cases member

def HasAsked (session : Session) (events : List PingEvent) : Prop :=
  events.countP PingEvent.isConcluded + (if session.pinger.phase.isAsking then 1 else 0) ≤
    events.countP PingEvent.isSent

theorem Learns.counts {outcome : Outcome} {link : Link} (learns : session.Learns move outcome link) :
    (session.move move).pinger.phase.isAsking = false ∧
      (session.pingEvents move).countP PingEvent.isConcluded = 1 ∧
      1 ≤ (if session.pinger.phase.isAsking then 1 else 0) +
        (session.pingEvents move).countP PingEvent.isSent := by
  obtain ⟨keepAlive, _, _, _, same⟩ := learns.taken
  have idle : (session.move move).pinger.phase.isAsking = false := by
    rw [same]
    exact Pinger.isAsking_learn link _ outcome
  refine ⟨idle, ?_⟩
  cases learns with
  | unsent resting bound failed =>
      simp only [pingEvents, resting, if_pos bound, failed]
      exact ⟨rfl, Nat.le_refl 1⟩
  | answered asking resolved =>
      simp only [pingEvents, asking, resolved]
      exact ⟨rfl, Nat.le_refl 1⟩
  | missed asking =>
      simp only [pingEvents, asking]
      exact ⟨rfl, Nat.le_refl 1⟩

theorem HasAsked.step (asked : session.HasAsked events) (move : Move) :
    (session.move move).HasAsked (events ++ session.pingEvents move) := by
  cases session.drives_move move with
  | spares nothing spares =>
      rw [nothing, List.append_nil]
      obtain ⟨_, same | inactive⟩ := spares.kept
      · rw [HasAsked, same]
        exact asked
      · have idle : (session.move move).pinger.phase.isAsking = false := by
          cases phase : (session.move move).pinger.phase with
          | asking handle => rw [phase] at inactive; cases inactive
          | _ => rfl
        rw [HasAsked, idle]
        exact (Nat.le_add_right _ _).trans asked
  | starts nothing waiting starts =>
      have idle : session.pinger.start.phase.isAsking = session.pinger.phase.isAsking := by
        unfold Pinger.start
        split
        · rename_i off
          rw [off.2]
          rfl
        · rfl
      rw [nothing, List.append_nil, HasAsked, starts, idle]
      exact asked
  | ends resting nothing ends =>
      rw [nothing, List.append_nil, HasAsked, ends]
      exact (Nat.le_add_right _ _).trans asked
  | sends resting sent sends =>
      rw [HasAsked, resting] at asked
      rw [sent, HasAsked, sends, List.countP_append, List.countP_append]
      exact Nat.add_le_add_right asked 1
  | learns learns =>
      obtain ⟨idle, once, sent⟩ := learns.counts
      rw [HasAsked] at asked
      rw [HasAsked, idle, List.countP_append, List.countP_append, once]
      simp only [Bool.false_eq_true, if_false]
      omega

theorem HasAsked.run (asked : session.HasAsked events) (moves : List Move) :
    (session.run moves).HasAsked (events ++ session.pingHistory moves) := by
  induction moves generalizing session events with
  | nil =>
      rw [pingHistory_nil, List.append_nil]
      exact asked
  | cons move moves ih =>
      rw [pingHistory_cons, ← List.append_assoc, run_cons]
      exact ih (asked.step move)

structure IsSilent (session : Session) : Prop where
  past : session.IsPastBind
  inactive : session.pinger.phase.isActive = false

theorem IsSilent.step (silent : session.IsSilent) (orderly : session.IsOrderly) (move : Move) :
    (session.move move).IsSilent := by
  refine ⟨(silent.past.step orderly move).1, ?_⟩
  cases session.drives_move move with
  | spares _ spares =>
      rcases spares.kept.2 with same | inactive
      · rw [same]
        exact silent.inactive
      · exact inactive
  | starts _ waiting _ => exact absurd waiting (silent.past.call _)
  | ends _ _ ends =>
      rw [ends]
      rfl
  | sends resting _ _ =>
      have active := silent.inactive
      rw [resting] at active
      cases active
  | learns learns =>
      have active := silent.inactive
      rw [learns.active] at active
      cases active

theorem IsSilent.run (silent : session.IsSilent) (orderly : session.IsOrderly) (moves : List Move) :
    (session.run moves).IsSilent ∧ session.pingHistory moves = [] := by
  induction moves generalizing session with
  | nil => exact ⟨silent, rfl⟩
  | cons move moves ih =>
      obtain ⟨later, nothing⟩ := ih (silent.step orderly move) (orderly.step (session.signals_move move))
      rw [pingHistory_cons, pingEvents_of_inactive silent.inactive, nothing]
      exact ⟨later, rfl⟩

theorem pingEvents_of_unbound (unbound : session.link.state ≠ .bound) (move : Move) :
    (session.pingEvents move).countP PingEvent.isSent = 0 := by
  cases move with
  | ask =>
      simp only [pingEvents, if_neg unbound]
      split <;> rfl
  | learn =>
      simp only [pingEvents]
      split
      · split <;> rfl
      · rfl
  | miss =>
      simp only [pingEvents]
      split <;> rfl
  | _ => rfl

theorem IsPastBind.unbound_run (past : session.IsPastBind) (orderly : session.IsOrderly)
    (unbound : session.link.state ≠ .bound) (moves : List Move) :
    (session.pingHistory moves).countP PingEvent.isSent = 0 := by
  induction moves generalizing session with
  | nil => rfl
  | cons move moves ih =>
      obtain ⟨later, bound⟩ := past.step orderly move
      rw [pingHistory_cons, List.countP_append, pingEvents_of_unbound unbound, Nat.zero_add]
      exact ih later (orderly.step (session.signals_move move)) (mt bound unbound)

theorem IsPastBind.run (past : session.IsPastBind) (orderly : session.IsOrderly) (moves : List Move) :
    (session.run moves).IsPastBind := by
  induction moves generalizing session with
  | nil => exact past
  | cons move moves ih => exact ih (past.step orderly move).1 (orderly.step (session.signals_move move))

theorem IsWatched.unanswered_lt (watched : IsWatched settings session events) (orderly : session.IsOrderly)
    {later : List Move} {outcome : Outcome} {link : Link} (learns : (session.run later).Learns move outcome link)
    (limited : settings.mostFailures ≠ 0) : unanswered events < settings.mostFailures := by
  by_cases active : session.pinger.phase.isActive = true
  · rcases watched.within active with quiet | within
    · rw [PingEvent.unanswered_of_sent quiet]
      exact Nat.pos_of_ne_zero limited
    · exact within
  · by_cases past : session.IsPastBind
    · -- It has ended for good, and what has ended learns nothing.
      have silent : session.IsSilent := ⟨past, by simpa using active⟩
      have inactive := (silent.run orderly later).1.inactive
      rw [learns.active] at inactive
      cases inactive
    · rw [(watched.early past).2]
      exact Nat.pos_of_ne_zero limited

theorem alike_of_unlearnt (pinging : move = .ask ∨ move = .learn ∨ move = .miss)
    (unlearnt : ∀ outcome link, ¬ session.Learns move outcome link) :
    session.link.Alike (session.move move).link := by
  rcases pinging with rfl | rfl | rfl
  · cases phase : session.pinger.phase with
    | resting =>
        by_cases bound : session.link.state = .bound
        · cases sending : session.link.send .enquireLink with
          | mk sent link =>
              cases sent with
              | error error => exact absurd (.unsent phase bound sending) (unlearnt _ _)
              | ok handle =>
                  simp only [Session.move, phase, Pinger.ask, if_pos bound, sending]
                  exact Link.alike_of_sent sending
        · simp only [Session.move, phase, Pinger.ask, if_neg bound]
          exact .refl _
    | _ =>
        simp only [Session.move, phase]
        exact .refl _
  · cases phase : session.pinger.phase with
    | asking handle =>
        cases resolved : session.link.pending.outcome? handle with
        | some outcome => exact absurd (.answered phase resolved) (unlearnt _ _)
        | none =>
            simp only [Session.move, phase, resolved]
            exact .refl _
    | _ =>
        simp only [Session.move, phase]
        exact .refl _
  · cases phase : session.pinger.phase with
    | asking handle => exact absurd (.missed phase) (unlearnt _ _)
    | _ =>
        simp only [Session.move, phase]
        exact .refl _

/-- What the keep-alive has counted by the end of the moves, and what it does in a further one. No counter goes
beyond the number of the pings, so that 32 bits are enough for fewer than 2^32 of them. With a limit to
the failures it has the session closed at the first of them that makes so many in a row; without any allowed,
at the first ping that it learns of. -/
structure Watches (start : Session) (limit : Nat) (moves : List Move) : Prop where
  counted : (start.run moves).pinger.keepAlive.Tallies (start.pingHistory moves)
  bounded : (start.run moves).pinger.keepAlive.pongs ≤ (start.run moves).pinger.keepAlive.pings ∧
    (start.run moves).pinger.keepAlive.failures ≤ (start.run moves).pinger.keepAlive.pings
  reacts : ∀ move outcome link, (start.run moves).Learns move outcome link →
    Reacts limit (unanswered (start.pingHistory (moves ++ [move]))) outcome link ((start.run moves).move move)
  apart : ∀ move, move = .ask ∨ move = .learn ∨ move = .miss →
    (∀ outcome link, ¬ (start.run moves).Learns move outcome link) →
    (start.run moves).link.Alike ((start.run moves).move move).link
  restarts : ∀ move outcome link, (start.run moves).Learns move outcome link → Outcome.isPong outcome = true →
    ((start.run moves).move move).pinger.keepAlive.failures = 0
  first : limit ≠ 0 → ∀ move outcome link, (start.run moves).Learns move outcome link →
    ∀ earlier, earlier <+: moves → unanswered (start.pingHistory earlier) < limit
  exact : limit ≠ 0 → ∀ move outcome link, (start.run moves).Learns move outcome link →
    limit ≤ unanswered (start.pingHistory (moves ++ [move])) →
    unanswered (start.pingHistory (moves ++ [move])) = limit ∧ (PingEvent.concluded outcome).isFailure = true
  atOnce : limit = 0 → ∀ move outcome link, (start.run moves).Learns move outcome link →
    ∀ event ∈ start.pingHistory moves, event.isSent = true
  silent : ∀ move outcome link, (start.run moves).Learns move outcome link →
    Outcome.isFatal outcome = true ∨ limit ≤ unanswered (start.pingHistory (moves ++ [move])) →
    ∀ later, start.pingHistory (moves ++ move :: later) = start.pingHistory (moves ++ [move])
  unbound : (∃ earlier, earlier <+: moves ∧ (start.run earlier).link.state = .bound) →
    (start.run moves).link.state ≠ .bound →
    ∀ later, (start.pingHistory (moves ++ later)).countP PingEvent.isSent =
      (start.pingHistory moves).countP PingEvent.isSent

/-- In every order of events the keep-alive has the session closed just when its limit is reached: by a failure,
and for the first time. Only a limit of zero is reached by the first ping that it learns of, answered or not. -/
theorem keepAlive_watches (config : SessionConfig) (handlers : HandlerTable) (sink : Sink) (moves : List Move) :
    (starting config handlers sink).Watches config.keepAlive.mostFailures moves := by
  have started := watched_starting config handlers sink
  have ordered := orderly_starting config handlers sink
  have asked : (starting config handlers sink).HasAsked [] := Nat.le_refl 0
  generalize starting config handlers sink = start at started ordered asked ⊢
  have watchedAt : ∀ moves, IsWatched config.keepAlive (start.run moves) (start.pingHistory moves) :=
    fun moves => started.run ordered moves
  have watched := watchedAt moves
  have orderly := ordered.run moves
  have reacts : ∀ move outcome link, (start.run moves).Learns move outcome link →
      Reacts config.keepAlive.mostFailures (unanswered (start.pingHistory (moves ++ [move]))) outcome link
        ((start.run moves).move move) := by
    intro move outcome link learns
    have reacts := (learns.reacts watched.tallies).1
    rw [watched.config] at reacts
    rw [pingHistory_concat]
    exact reacts
  have before : config.keepAlive.mostFailures ≠ 0 → ∀ move outcome link,
      (start.run moves).Learns move outcome link → ∀ earlier, earlier <+: moves →
      unanswered (start.pingHistory earlier) < config.keepAlive.mostFailures := by
    rintro limited move outcome link learns earlier ⟨since, rfl⟩
    rw [run_append] at learns
    exact (watchedAt earlier).unanswered_lt (ordered.run earlier) learns limited
  refine ⟨watched.tallies, ?_, reacts, fun move => alike_of_unlearnt, ?_, before, ?_, ?_, ?_, ?_⟩
  · have sent := (Nat.le_add_right _ _).trans (asked.run moves)
    rw [List.nil_append] at sent
    rw [watched.tallies.pings, watched.tallies.pongs, watched.tallies.failures]
    exact ⟨(PingEvent.countP_isPong_le _).trans sent, (PingEvent.unanswered_le _).trans sent⟩
  · intro move outcome link learns pong
    rw [(learns.reacts watched.tallies).2.1.failures, learns.unanswered_eq, if_pos pong]
  · intro limited move outcome link learns reached
    have within := before limited move outcome link learns moves (List.prefix_refl moves)
    rw [pingHistory_concat, learns.unanswered_eq] at reached ⊢
    split at reached
    · exact absurd (Nat.le_zero.mp reached) limited
    · rename_i silent
      split at reached
      · rename_i failure
        rw [if_neg silent, if_pos failure]
        exact ⟨by omega, failure⟩
      · omega
  · intro none move outcome link learns
    rcases watched.within learns.active with quiet | within
    · exact quiet
    · rw [none] at within
      exact absurd within (Nat.not_lt_zero _)
  · intro move outcome link learns decided later
    have silent : ((start.run moves).move move).IsSilent := by
      refine ⟨((watched.pastBind_of_active learns.active).step orderly move).1, ?_⟩
      rw [(reacts move outcome link learns).ended decided]
      rfl
    have nothing := (silent.run (orderly.step (signals_move _ move)) later).2
    rw [pingHistory_concat, pingHistory_append, pingHistory_cons, nothing, List.append_nil]
  · rintro ⟨earlier, ⟨since, rfl⟩, bound⟩ unbound later
    have past := ((ordered.run earlier).pastBind bound).run (ordered.run earlier) since
    rw [← run_append] at past
    rw [pingHistory_append, List.countP_append, past.unbound_run orderly unbound, Nat.add_zero]

/-- No failure at all is allowed, and there is none: the SMS centre answers the first ping, and the keep-alive has
the session closed. -/
theorem closed_after_pong :
    let session := (starting { keepAlive := { mostFailures := 0 } } .standard {}).run
      [.start (.bind { systemId := "esme" }), .hear (.frame ⟨.ok, 1, .bindTransceiverResp {}⟩), .handled .overran,
        .resume, .ask, .hear (.frame ⟨.ok, 2, .enquireLinkResp⟩), .handled .overran]
    session.link.state = .bound ∧ session.link.closeRequested = false ∧
      session.pingEvents .learn = [.concluded (.ok ⟨.ok, 2, .enquireLinkResp⟩)] ∧
      Outcome.isPong (.ok ⟨.ok, 2, .enquireLinkResp⟩) = true ∧
      (session.move .learn).link = session.link.requestClose (some .connectionLost) ∧
      (session.move .learn).pinger.keepAlive.failures = 0 ∧
      (session.run [.learn, .stop]).listener = .ended (.error .connectionLost) := by
  refine ⟨?_, ?_, ?_, ?_, ?_, ?_, ?_⟩ <;> rfl

end

end Session

end Smpp
