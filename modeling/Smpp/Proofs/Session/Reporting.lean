import Smpp.Proofs.Session.Closing
import Smpp.Proofs.Session.Endings

/-!
How the end of a session is reported. The listener's end goes to one call, which reports it or puts it aside
for the next that asks, and it is told once. But a call that has taken it and is dropped takes it along: those
that ask after that are told that all is well, be the listener at its end or not.
-/

namespace Smpp

def Call.takesEnd : Call → Bool
  | leaving _ | joining => true
  | none | awaiting .. | returned _ => false

namespace Session

def report (outcome : Except SessionError Unit) : Result := outcome.map fun _ => .done

def waitsForEnd (session : Session) (move : Move) : Bool :=
  match session.call, move with
  | .joining, _ => true
  | call, .start .waitClosed => !call.isUnderWay
  | _, _ => false

def reported (session : Session) (move : Move) : List Result :=
  match session.waitsForEnd move, (session.move move).call with
  | true, .returned result => [result]
  | _, _ => []

def DropsEnd (session : Session) (move : Move) : Prop :=
  move = .drop ∧ session.call.takesEnd = true

/-- Where the listener's end is, by what has been reported of it: nobody has asked for it, a call waits for
it, it has been put aside, or it has been told, once. -/
inductive Stage (session : Session) : List Result → Prop
  | held (held : session.isListenerHeld = true) (none : session.ending = none)
      (idle : session.call.takesEnd = false) : Stage session []
  | taken (taken : session.isListenerHeld = false) (none : session.ending = none)
      (waiting : session.call.takesEnd = true) : Stage session []
  | stored {outcome : Except SessionError Unit} (taken : session.isListenerHeld = false)
      (stored : session.ending = some outcome) (ended : session.listener = .ended outcome)
      (idle : session.call.takesEnd = false) : Stage session []
  | told {outcome : Except SessionError Unit} (later : Nat) (taken : session.isListenerHeld = false)
      (none : session.ending = none) (ended : session.listener = .ended outcome)
      (idle : session.call.takesEnd = false) :
      Stage session (report outcome :: List.replicate later (.ok .done))

structure IsForgotten (session : Session) : Prop where
  taken : session.isListenerHeld = false
  none : session.ending = none
  idle : session.call.takesEnd = false

/-- What is put aside stays there, and a call takes the listener's end to itself only if nobody has it. -/
structure Hands (before after : Session) : Prop where
  ending : after.ending = before.ending
  listener : after.isListenerHeld = before.isListenerHeld ∧ after.call.takesEnd = false ∨
    before.isListenerHeld = true ∧ after.isListenerHeld = false ∧ after.call.takesEnd = true

section

variable {session after : Session} {move : Move} {reports : List Result}

theorem hands_of_same (ending : after.ending = session.ending)
    (held : after.isListenerHeld = session.isListenerHeld) (idle : after.call.takesEnd = false) :
    session.Hands after := ⟨ending, Or.inl ⟨held, idle⟩⟩

theorem hands_startLeaving (session : Session) (result : Result) :
    session.Hands (session.startLeaving result) := by
  unfold startLeaving
  dsimp only
  split
  · rename_i held
    exact ⟨rfl, Or.inr ⟨held, rfl, rfl⟩⟩
  · exact hands_of_same rfl rfl rfl

theorem hands_conclude (session : Session) (purpose : Purpose) (outcome : Outcome) :
    session.Hands (session.conclude purpose outcome) := by
  rcases session.conclude_cases purpose outcome with
    ⟨_, _, _, _, _, same⟩ | ⟨result, _, same⟩ | ⟨result, _, same⟩
  · rw [same]
    exact hands_of_same rfl rfl rfl
  · rw [same]
    exact hands_startLeaving session result
  · rw [same]
    exact hands_of_same rfl rfl rfl

theorem hands_conclude_at (session : Session) (link : Link) (purpose : Purpose) (outcome : Outcome) :
    session.Hands (({ session with link } : Session).conclude purpose outcome) :=
  ⟨(hands_conclude _ purpose outcome).ending, (hands_conclude _ purpose outcome).listener⟩

theorem hands_await (session : Session) (link : Link) (purpose : Purpose) (body : Body) :
    session.Hands (({ session with link } : Session).await purpose body) := by
  unfold await
  split
  · exact hands_of_same rfl rfl rfl
  · exact hands_conclude_at session _ purpose _

theorem hands_start {request : Request} (other : request ≠ .waitClosed) :
    session.Hands (session.start request) := by
  cases request with
  | bind credentials =>
      simp only [start]
      split
      · exact hands_await session _ _ _
      · exact hands_of_same rfl rfl rfl
  | submit source destination segment wantsReceipt => exact hands_of_same rfl rfl rfl
  | sendMessage source destination text =>
      simp only [start]
      split
      · split
        · exact hands_of_same rfl rfl rfl
        · exact hands_of_same rfl rfl rfl
      · exact hands_of_same rfl rfl rfl
  | messageId handle => exact hands_of_same rfl rfl rfl
  | enquireLink =>
      simp only [start]
      split
      · exact hands_of_same rfl rfl rfl
      · exact hands_await session _ _ _
  | unbind =>
      simp only [start]
      split
      · exact hands_await session _ _ _
      · exact hands_startLeaving session _
  | disconnect => exact hands_startLeaving session _
  | waitClosed => exact absurd rfl other

theorem hands_move (idle : session.call.takesEnd = false) (other : move ≠ .start .waitClosed) :
    session.Hands (session.move move) := by
  cases calling : move.isCalling with
  | false =>
      obtain ⟨link, listener, pinger, same⟩ := session.move_of_other calling
      rw [same]
      exact hands_of_same rfl rfl idle
  | true =>
      cases move with
      | start request =>
          simp only [Session.move]
          split
          · exact hands_of_same rfl rfl idle
          · apply hands_start
            rintro rfl
            exact other rfl
      | resume =>
          simp only [Session.move, resume]
          split
          · split
            · exact hands_conclude session _ _
            · exact hands_of_same rfl rfl idle
          · rename_i call _
            rw [call] at idle
            cases idle
          · rename_i call _
            rw [call] at idle
            cases idle
          · exact hands_of_same rfl rfl idle
      | giveUp =>
          simp only [Session.move, giveUp]
          split
          · exact hands_conclude_at session _ _ _
          · rename_i call
            rw [call] at idle
            cases idle
          · exact hands_of_same rfl rfl idle
          · exact hands_of_same rfl rfl idle
          · exact hands_of_same rfl rfl idle
      | drop =>
          simp only [Session.move]
          split
          · exact hands_of_same rfl rfl rfl
          · exact hands_of_same rfl rfl idle
      | _ => cases calling

theorem reported_of_other (idle : session.call.takesEnd = false) (other : move ≠ .start .waitClosed) :
    session.reported move = [] := by
  have unasked : session.waitsForEnd move = false := by
    unfold waitsForEnd
    split
    · rename_i call
      rw [call] at idle
      cases idle
    · exact absurd rfl other
    · rfl
  rw [reported, unasked]

theorem Stage.hands (stage : session.Stage reports) (hands : session.Hands after)
    (idle : session.call.takesEnd = false)
    (settled : ∀ outcome, session.listener = .ended outcome → after.listener = .ended outcome) :
    after.Stage reports := by
  cases stage with
  | held held none _ =>
      rcases hands.listener with ⟨same, still⟩ | ⟨_, taken, waiting⟩
      · exact .held (same.trans held) (hands.ending.trans none) still
      · exact .taken taken (hands.ending.trans none) waiting
  | taken _ _ waiting =>
      rw [idle] at waiting
      cases waiting
  | stored taken stored ended _ =>
      rcases hands.listener with ⟨same, still⟩ | ⟨held, _⟩
      · exact .stored (same.trans taken) (hands.ending.trans stored) (settled _ ended) still
      · rw [taken] at held
        cases held
  | told later taken none ended _ =>
      rcases hands.listener with ⟨same, still⟩ | ⟨held, _⟩
      · exact .told later (same.trans taken) (hands.ending.trans none) (settled _ ended) still
      · rw [taken] at held
        cases held

theorem move_waitClosed (free : session.call.isUnderWay = false) (taken : session.isListenerHeld = false) :
    session.move (.start .waitClosed) =
      { session with
        ending := .none
        call := .returned (report (session.ending.getD (.ok ()))) } := by
  simp only [Session.move, free, Session.start, taken, Bool.false_eq_true, if_false]
  rfl

theorem reported_waitClosed (free : session.call.isUnderWay = false)
    (taken : session.isListenerHeld = false) :
    session.reported (.start .waitClosed) = [report (session.ending.getD (.ok ()))] := by
  have asks : session.waitsForEnd (.start .waitClosed) = true := by
    unfold waitsForEnd
    split
    · rfl
    · rw [free]
      rfl
    · rename_i other
      exact (other rfl).elim
  rw [reported, asks, move_waitClosed free taken]

theorem waitClosed_of_busy (idle : session.call.takesEnd = false) (busy : session.call.isUnderWay = true) :
    session.reported (.start .waitClosed) = [] ∧ session.move (.start .waitClosed) = session := by
  have unasked : session.waitsForEnd (.start .waitClosed) = false := by
    unfold waitsForEnd
    split
    · rename_i call
      rw [call] at idle
      cases idle
    · rw [busy]
      rfl
    · rfl
  rw [reported, unasked, Session.move, if_pos busy]
  exact ⟨rfl, rfl⟩

theorem reported_of_unreturned (unreturned : ∀ result, (session.move move).call ≠ .returned result) :
    session.reported move = [] := by
  unfold reported
  split
  · rename_i result _ returned
    exact absurd returned (unreturned result)
  · rfl

theorem reported_of_leaving {result : Result} (leaving : session.call = .leaving result) :
    session.reported move = [] := by
  have unasked : session.waitsForEnd move = false := by
    unfold waitsForEnd
    rw [leaving]
    cases move with
    | start request => cases request <;> rfl
    | _ => rfl
  rw [reported, unasked]

theorem resume_of_going (waiting : session.call.takesEnd = true)
    (going : ∀ outcome, session.listener ≠ .ended outcome) : session.resume = session := by
  unfold resume
  split
  · rename_i call
    rw [call] at waiting
    cases waiting
  · rename_i ended
    exact absurd ended (going _)
  · rename_i ended
    exact absurd ended (going _)
  · rfl

theorem stage_of_leaving {result : Result} (leaving : session.call = .leaving result)
    (taken : session.isListenerHeld = false) (none : session.ending = none) (kept : move ≠ .drop) :
    (session.move move).Stage [] := by
  have waiting : session.call.takesEnd = true := by rw [leaving]; rfl
  cases calling : move.isCalling with
  | false =>
      obtain ⟨link, listener, pinger, same⟩ := session.move_of_other calling
      rw [same]
      exact .taken taken none waiting
  | true =>
      cases move with
      | start request =>
          have busy : session.call.isUnderWay = true := by rw [leaving]; rfl
          rw [Session.move, if_pos busy]
          exact .taken taken none waiting
      | resume =>
          by_cases finished : ∃ outcome, session.listener = .ended outcome
          · obtain ⟨outcome, ended⟩ := finished
            have leaves : session.move .resume =
                ({ session with ending := some outcome } : Session).leave result := by
              simp only [Session.move, resume, leaving, ended]
            rw [leaves]
            exact .stored taken rfl ended rfl
          · rw [Session.move, resume_of_going waiting (not_exists.mp finished)]
            exact .taken taken none waiting
      | giveUp =>
          simp only [Session.move, giveUp, leaving]
          exact .stored taken rfl rfl rfl
      | drop => exact absurd rfl kept
      | _ => cases calling

theorem stage_of_joining (joining : session.call = .joining) (taken : session.isListenerHeld = false)
    (none : session.ending = none) (kept : move ≠ .drop) :
    (session.move move).Stage (session.reported move) ∧
      (session.reported move ≠ [] → ∃ outcome, session.listener = .ended outcome) := by
  have waiting : session.call.takesEnd = true := by rw [joining]; rfl
  have goesOn : ∀ {after : Session}, session.move move = after → after.call = .joining →
      after.isListenerHeld = false → after.ending = .none →
      (session.move move).Stage (session.reported move) ∧
        (session.reported move ≠ [] → ∃ outcome, session.listener = .ended outcome) := by
    intro after moved call taken none
    have silent : session.reported move = [] := by
      apply reported_of_unreturned
      intro result returned
      rw [moved, call] at returned
      cases returned
    rw [silent, moved]
    refine ⟨.taken taken none ?_, fun impossible => absurd rfl impossible⟩
    rw [call]
    rfl
  cases calling : move.isCalling with
  | false =>
      obtain ⟨link, listener, pinger, same⟩ := session.move_of_other calling
      exact goesOn same joining taken none
  | true =>
      cases move with
      | start request =>
          have busy : session.call.isUnderWay = true := by rw [joining]; rfl
          exact goesOn (by rw [Session.move, if_pos busy]) joining taken none
      | resume =>
          by_cases finished : ∃ outcome, session.listener = .ended outcome
          · obtain ⟨outcome, ended⟩ := finished
            have returns : session.move .resume =
                ({ session with pinger := session.pinger.callOff } : Session).returning
                  (report outcome) := by
              simp only [Session.move, resume, joining, ended]
              rfl
            have told : session.reported .resume = [report outcome] := by
              simp only [reported, waitsForEnd, joining, returns, returning]
            rw [told, returns]
            exact ⟨.told 0 taken none ended rfl, fun _ => ⟨outcome, ended⟩⟩
          · exact goesOn (resume_of_going waiting (not_exists.mp finished)) joining taken none
      | giveUp => exact goesOn (by simp only [Session.move, giveUp, joining]) joining taken none
      | drop => exact absurd rfl kept
      | _ => cases calling

theorem Stage.waitClosed (stage : session.Stage reports) (idle : session.call.takesEnd = false) :
    (session.move (.start .waitClosed)).Stage (reports ++ session.reported (.start .waitClosed)) ∧
      (session.reported (.start .waitClosed) ≠ [] → ∃ outcome, session.listener = .ended outcome) := by
  by_cases free : session.call.isUnderWay = false
  · cases stage with
    | held held none _ =>
        have joins : session.move (.start .waitClosed) =
            { session with isListenerHeld := false, call := .joining } := by
          simp only [Session.move, free, Session.start, held, Bool.false_eq_true, if_false, if_true]
        have silent : session.reported (.start .waitClosed) = [] := by
          apply reported_of_unreturned
          intro result returned
          rw [joins] at returned
          cases returned
        rw [silent, joins]
        exact ⟨.taken rfl none rfl, fun impossible => absurd rfl impossible⟩
    | taken _ _ waiting =>
        rw [idle] at waiting
        cases waiting
    | @stored outcome taken stored ended _ =>
        rw [reported_waitClosed free taken, move_waitClosed free taken, stored]
        exact ⟨.told 0 taken rfl ended rfl, fun _ => ⟨outcome, ended⟩⟩
    | @told outcome later taken none ended _ =>
        have again : report outcome :: List.replicate later (.ok .done) ++ [report (.ok ())] =
            report outcome :: List.replicate (later + 1) (.ok .done) := by
          rw [List.cons_append, List.replicate_succ']
          rfl
        rw [reported_waitClosed free taken, move_waitClosed free taken, none, Option.getD_none, again]
        exact ⟨.told (later + 1) taken rfl ended rfl, fun _ => ⟨outcome, ended⟩⟩
  · obtain ⟨silent, same⟩ := waitClosed_of_busy idle (by simpa using free)
    rw [silent, same, List.append_nil]
    exact ⟨stage, fun impossible => absurd rfl impossible⟩

theorem Stage.step (stage : session.Stage reports) (kept : ¬ session.DropsEnd move) :
    (session.move move).Stage (reports ++ session.reported move) ∧
      (session.reported move ≠ [] → ∃ outcome, session.listener = .ended outcome) := by
  cases idle : session.call.takesEnd with
  | true =>
      have stays : move ≠ .drop := fun drop => kept ⟨drop, idle⟩
      cases stage with
      | taken taken none waiting =>
          cases call : session.call with
          | leaving result =>
              rw [reported_of_leaving call]
              exact ⟨stage_of_leaving call taken none stays, fun impossible => absurd rfl impossible⟩
          | joining =>
              rw [List.nil_append]
              exact stage_of_joining call taken none stays
          | _ =>
              rw [call] at idle
              cases idle
      | held _ _ other =>
          rw [idle] at other
          cases other
      | stored _ _ _ other =>
          rw [idle] at other
          cases other
      | told _ _ _ _ other =>
          rw [idle] at other
          cases other
  | false =>
      by_cases asks : move = .start .waitClosed
      · subst asks
        exact stage.waitClosed idle
      · rw [reported_of_other idle asks, List.append_nil]
        refine ⟨stage.hands (hands_move idle asks) idle ?_, fun impossible => absurd rfl impossible⟩
        intro outcome ended
        exact listener_move_of_ended ended move

end

section

variable {session start : Session} {moves : List Move}

theorem Stage.run {reports : List Result} (stage : session.Stage reports)
    (kept : ¬ session.Happens DropsEnd moves) :
    (session.run moves).Stage (reports ++ session.collect reported moves) := by
  induction moves generalizing session reports with
  | nil =>
      rw [collect, List.append_nil]
      exact stage
  | cons move moves ih =>
      have next := (stage.step fun drops => kept (Or.inl drops)).1
      have rest := ih next fun later => kept (Or.inr later)
      rw [List.append_assoc] at rest
      exact rest

theorem IsForgotten.step (forgotten : session.IsForgotten) (move : Move) :
    (session.move move).IsForgotten ∧ ∀ result ∈ session.reported move, result = .ok .done := by
  by_cases asks : move = .start .waitClosed
  · subst asks
    by_cases free : session.call.isUnderWay = false
    · rw [reported_waitClosed free forgotten.taken, move_waitClosed free forgotten.taken, forgotten.none]
      refine ⟨⟨forgotten.taken, rfl, rfl⟩, ?_⟩
      intro result member
      exact List.mem_singleton.mp member
    · obtain ⟨silent, same⟩ := waitClosed_of_busy forgotten.idle (by simpa using free)
      rw [silent, same]
      exact ⟨forgotten, List.forall_mem_nil _⟩
  · have hands := hands_move forgotten.idle asks
    rw [reported_of_other forgotten.idle asks]
    rcases hands.listener with ⟨same, idle⟩ | ⟨held, _⟩
    · exact ⟨⟨same.trans forgotten.taken, hands.ending.trans forgotten.none, idle⟩, List.forall_mem_nil _⟩
    · rw [forgotten.taken] at held
      cases held

theorem IsForgotten.run (forgotten : session.IsForgotten) (moves : List Move) :
    (session.run moves).IsForgotten ∧ ∀ result ∈ session.collect reported moves, result = .ok .done := by
  induction moves generalizing session with
  | nil => exact ⟨forgotten, List.forall_mem_nil _⟩
  | cons move moves ih =>
      obtain ⟨next, now⟩ := forgotten.step move
      obtain ⟨last, later⟩ := ih next
      refine ⟨last, ?_⟩
      intro result member
      rcases List.mem_append.mp member with first | others
      · exact now result first
      · exact later result others

theorem forgotten_of_dropsEnd {reports : List Result} {move : Move} (stage : session.Stage reports)
    (drops : session.DropsEnd move) : reports = [] ∧ (session.move move).IsForgotten := by
  obtain ⟨rfl, waiting⟩ := drops
  have busy : session.call.isUnderWay = true := by
    cases call : session.call <;> rw [call] at waiting <;> first | rfl | cases waiting
  cases stage with
  | taken taken none _ =>
      rw [Session.move, if_pos busy]
      exact ⟨rfl, taken, none, rfl⟩
  | held _ _ idle =>
      rw [waiting] at idle
      cases idle
  | stored _ _ _ idle =>
      rw [waiting] at idle
      cases idle
  | told _ _ _ _ idle =>
      rw [waiting] at idle
      cases idle

/-- The end of the session is told once, and not before the listener has come to its end. Who asks again
learns that all is well. -/
structure ReportsOnce (start : Session) (moves : List Move) : Prop where
  told : start.collect reported moves = [] ∨
    ∃ outcome later, start.collect reported moves = report outcome :: List.replicate later (.ok .done) ∧
      (start.run moves).listener = .ended outcome
  waited : ∀ earlier move later, moves = earlier ++ move :: later →
    (start.run earlier).reported move ≠ [] → ∃ outcome, (start.run earlier).listener = .ended outcome

/-- The end of the session has not been told by the time that the call which waits for it is dropped, and
it never is. -/
structure ForgetsEnd (start : Session) (earlier later : List Move) : Prop where
  before : start.collect reported earlier = []
  after : ∀ result ∈ (start.run (earlier ++ [.drop])).collect reported later, result = .ok .done
  atOnce : (start.run (earlier ++ .drop :: later)).call.isUnderWay = false →
    ((start.run (earlier ++ .drop :: later)).move (.start .waitClosed)).call = .returned (.ok .done)

theorem stage_starting {config : SessionConfig} {handlers : HandlerTable} {sink : Sink}
    (kept : ¬ (starting config handlers sink).Happens DropsEnd moves) :
    ((starting config handlers sink).run moves).Stage
      ((starting config handlers sink).collect reported moves) := by
  have first : (starting config handlers sink).Stage [] := .held rfl rfl rfl
  exact first.run kept

end

/-- In every order of events the end of a session is told to one call, which is the first that asks, unless a
call that has taken it is dropped. What is told is how the listener has ended, or that the connection is
lost when it has been cut short. -/
theorem end_reported_once (config : SessionConfig) (handlers : HandlerTable) (sink : Sink)
    (moves : List Move) :
    let start := starting config handlers sink
    (¬ start.Happens DropsEnd moves → start.ReportsOnce moves) ∧
    (∀ earlier later, moves = earlier ++ .drop :: later → ¬ start.Happens DropsEnd earlier →
      (start.run earlier).DropsEnd .drop → start.ForgetsEnd earlier later) ∧
    ∀ move outcome, (start.run moves).listener.outcome? = none →
      ((start.run moves).move move).listener = .ended outcome →
      (start.run moves).Ends move outcome ∨
        outcome = .error .connectionLost ∧ ∃ result, (start.run moves).call = .leaving result := by
  intro start
  refine ⟨fun kept => ⟨?_, ?_⟩, ?_, ?_⟩
  · have stage : (start.run moves).Stage (start.collect reported moves) := stage_starting kept
    generalize start.collect reported moves = reports at stage ⊢
    cases stage with
    | held _ _ _ => exact Or.inl rfl
    | taken _ _ _ => exact Or.inl rfl
    | stored _ _ _ _ => exact Or.inl rfl
    | told later _ _ ended _ => exact Or.inr ⟨_, later, rfl, ended⟩
  · rintro earlier move later rfl tells
    have stage : (start.run earlier).Stage (start.collect reported earlier) :=
      stage_starting fun happens => kept (happens_append.mpr (Or.inl happens))
    apply (stage.step _).2 tells
    intro drops
    exact kept (happens_append.mpr (Or.inr (Or.inl drops)))
  · rintro earlier later rfl kept drops
    have stage : (start.run earlier).Stage (start.collect reported earlier) := stage_starting kept
    obtain ⟨none, forgotten⟩ := forgotten_of_dropsEnd stage drops
    rw [← run_concat] at forgotten
    obtain ⟨last, told⟩ := forgotten.run later
    have same : start.run (earlier ++ .drop :: later) = (start.run (earlier ++ [.drop])).run later := by
      rw [← run_append, List.append_assoc, List.singleton_append]
    refine ⟨none, told, ?_⟩
    rw [same]
    intro free
    rw [move_waitClosed free last.taken, last.none]
    rfl
  · intro move outcome going ended
    exact (signals_move _ move).end_cases going ended

/-- The listener finds nonsense, which the second call is told, after a disconnect that has put it aside. -/
def toldMoves : List Move :=
  [.hear (.desync (.invalidLength 4 16 65536)), .start .disconnect, .resume, .start .waitClosed,
   .start .waitClosed]

theorem end_reported_once_sample :
    let start := starting {} .standard {}
    start.ReportsOnce toldMoves ∧ start.collect reported toldMoves =
        [.error (.protocolViolation (.invalidLength 4 16 65536)), .ok .done] ∧
      start.ForgetsEnd [.start .waitClosed] toldMoves := by
  intro start
  have kept : ¬ start.Happens DropsEnd toldMoves := by
    rintro (⟨impossible, _⟩ | ⟨impossible, _⟩ | ⟨impossible, _⟩ | ⟨impossible, _⟩ | ⟨impossible, _⟩ |
      impossible) <;> cases impossible
  have first : ¬ start.Happens DropsEnd [.start .waitClosed] := by
    rintro (⟨impossible, _⟩ | impossible) <;> cases impossible
  have drops : (start.run [.start .waitClosed]).DropsEnd .drop := ⟨rfl, rfl⟩
  exact ⟨(end_reported_once {} .standard {} toldMoves).1 kept, rfl,
    (end_reported_once {} .standard {} (.start .waitClosed :: .drop :: toldMoves)).2.1 [.start .waitClosed]
      toldMoves rfl first drops⟩

/-- A call waits for the end of the session and is dropped, as by a limit of time around it. The next one
returns at once, and again when the listener has found nonsense: that is never told. -/
theorem end_lost_when_dropped :
    let session := (starting {} .standard {}).run [.start .waitClosed, .drop]
    let ended := session.run [.start .waitClosed, .hear (.desync (.invalidLength 4 16 65536))]
    session.listener = .reading ∧
      (session.move (.start .waitClosed)).call = .returned (.ok .done) ∧
      ended.listener = .ended (.error (.protocolViolation (.invalidLength 4 16 65536))) ∧
      (ended.move (.start .waitClosed)).call = .returned (.ok .done) :=
  ⟨rfl, rfl, rfl, rfl⟩

end Session

end Smpp
