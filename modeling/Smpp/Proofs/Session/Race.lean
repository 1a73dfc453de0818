import Smpp.Proofs.Session.Correlation

/-!
A submit against the end of the listener. Each is a series of steps that the other may come between. Requests
that wait when the end begins are lost, and so is the submit's if it is registered before the table is
emptied. One that is registered after that and written before the transport is closed goes on waiting, and
nobody is left to take it out.
-/

namespace Smpp

/-- Where a submit is: it looks for a bound session, registers its request, writes it, and withdraws it when
that has failed. -/
inductive Submission
  | checking
  | registering
  | writing (handle : PendingHandle)
  | withdrawing (handle : PendingHandle) (error : SessionError)
  | returned (outcome : Except SessionError PendingHandle)
  deriving DecidableEq

def Submission.handle? : Submission → Option PendingHandle
  | writing handle | withdrawing handle _ | returned (.ok handle) => some handle
  | checking | registering | returned (.error _) => none

/-- Where the end of the listener is: it empties the table, publishes that the session is disconnected, and
closes the transport. -/
inductive TearDown
  | emptying
  | publishing
  | closing
  | finished
  deriving DecidableEq

structure Race where
  link : Link
  message : ShortMessage
  submission : Submission := .checking
  tearDown : TearDown := .emptying

namespace Race

inductive Turn
  | submit
  | tearDown
  deriving DecidableEq

def submit (race : Race) : Race :=
  match race.submission with
  | .checking =>
      if race.link.state = .bound then { race with submission := .registering }
      else { race with submission := .returned (.error (.notBound race.link.state)) }
  | .registering =>
      let (handle, link) := race.link.register .submitSm
      { race with link, submission := .writing handle }
  | .writing handle =>
      match race.link.write { sequence := handle.sequence, body := .submitSm race.message } with
      | (.ok (), link) => { race with link, submission := .returned (.ok handle) }
      | (.error error, link) => { race with link, submission := .withdrawing handle error }
  | .withdrawing handle error =>
      { race with link := race.link.withdraw handle, submission := .returned (.error error) }
  | .returned _ => race

def tear (race : Race) : Race :=
  match race.tearDown with
  | .emptying => { race with link := race.link.failAll, tearDown := .publishing }
  | .publishing => { race with link := race.link.setState .disconnected, tearDown := .closing }
  | .closing => { race with link := race.link.closeTransport, tearDown := .finished }
  | .finished => race

def take (race : Race) : Turn → Race
  | .submit => race.submit
  | .tearDown => race.tear

def run (race : Race) (turns : List Turn) : Race := turns.foldl take race

@[simp] theorem run_nil (race : Race) : race.run [] = race := rfl

@[simp] theorem run_cons (race : Race) (turn : Turn) (turns : List Turn) :
    race.run (turn :: turns) = (race.take turn).run turns := rfl

theorem evolves_take (race : Race) (turn : Turn) :
    race.link.pending.Evolves (· = .error .connectionLost) (race.take turn).link.pending := by
  cases turn with
  | submit =>
      simp only [take, submit]
      split
      · split <;> exact .refl
      · exact .register .refl .submitSm race.link.now
      · rename_i handle _
        have pending := race.link.pending_write
          { sequence := handle.sequence, body := .submitSm race.message }
        split
        · rename_i wrote
          rw [wrote] at pending
          rw [pending]
          exact .refl
        · rename_i failed
          rw [failed] at pending
          rw [pending]
          exact .refl
      · exact .retire .refl _ rfl
      · exact .refl
  | tearDown =>
      simp only [take, tear]
      split
      · exact .retire .refl _ rfl
      · exact .refl
      · exact .refl
      · exact .refl

theorem evolves_run (race : Race) (turns : List Turn) :
    race.link.pending.Evolves (· = .error .connectionLost) (race.run turns).link.pending := by
  induction turns generalizing race with
  | nil => exact .refl
  | cons turn turns ih => exact (race.evolves_take turn).trans (ih _)

theorem run_submit (link : Link) (source destination : String) (segment : Segment) (wantsReceipt : Bool) :
    let message := link.config.message source destination segment wantsReceipt
    let race := ({ link, message } : Race).run [.submit, .submit, .submit, .submit]
    race.link = (link.submit source destination segment wantsReceipt).2 ∧
      race.submission = .returned (link.submit source destination segment wantsReceipt).1 := by
  simp only [run_cons, run_nil, take, submit, Link.submit]
  by_cases bound : link.state = .bound
  · simp only [if_pos bound, Link.send, Link.transmit, Body.commandId]
    cases wrote : (link.register .submitSm).2.write
        { sequence := (link.register .submitSm).1.sequence,
          body := .submitSm (link.config.message source destination segment wantsReceipt) } with
    | mk outcome after =>
        cases outcome with
        | ok done => exact ⟨rfl, rfl⟩
        | error error => exact ⟨rfl, rfl⟩
  · simp only [if_neg bound, and_self]

theorem run_tearDown (race : Race) (whole : race.tearDown = .emptying) :
    (race.run [.tearDown, .tearDown, .tearDown]).link = race.link.tearDown := by
  simp only [run_cons, run_nil, take, tear, whole, Link.tearDown]

def RegistersLate (race : Race) : List Turn → Prop
  | [] => False
  | turn :: turns =>
      (turn = .submit ∧ race.submission = .registering ∧ race.tearDown ≠ .emptying) ∨
        (race.take turn).RegistersLate turns

/-- What has become of the request with this handle. Before the table is emptied it waits; after that it is
lost, unless it was late. -/
structure Stands (late : Prop) (race : Race) (handle : PendingHandle) : Prop where
  early : race.tearDown = .emptying → ¬ late ∧ ∃ request ∈ race.link.pending.requests, request.handle = handle
  kept : race.tearDown ≠ .emptying → late →
    ∃ request, race.link.pending.requests = [request] ∧ request.handle = handle
  lost : race.tearDown ≠ .emptying → ¬ late → race.link.pending.requests = [] ∧
    race.link.pending.outcome? handle = some (.error .connectionLost)

structure Accounts (late : Prop) (race : Race) : Prop where
  timely : race.submission = .checking ∨ race.submission = .registering → ¬ late
  emptied : race.submission.handle? = none → race.tearDown ≠ .emptying → race.link.pending.requests = []
  stands : ∀ handle, race.submission.handle? = some handle → race.Stands late handle

section

variable {race after : Race} {late : Prop} {handle : PendingHandle}

theorem Stands.of_same (stands : race.Stands late handle) (pending : after.link.pending = race.link.pending)
    (tearDown : after.tearDown = .emptying ↔ race.tearDown = .emptying) : after.Stands late handle where
  early whole := by
    rw [pending]
    exact stands.early (tearDown.mp whole)
  kept emptied := by
    rw [pending]
    exact stands.kept fun whole => emptied (tearDown.mpr whole)
  lost emptied := by
    rw [pending]
    exact stands.lost fun whole => emptied (tearDown.mpr whole)

theorem Stands.empty (stands : race.Stands late handle) (ticketed : race.link.pending.Ticketed)
    (whole : race.tearDown = .emptying) (pending : after.link.pending = race.link.pending.failAll.2)
    (emptied : after.tearDown ≠ .emptying) : after.Stands late handle := by
  obtain ⟨timely, request, waits, rfl⟩ := stands.early whole
  refine ⟨fun impossible => absurd impossible emptied, fun _ late => absurd late timely, fun _ _ => ?_⟩
  rw [pending]
  exact ⟨PendingTable.failAll_eq.2, ticketed.outcome?_of_leaving waits rfl⟩

theorem Accounts.of_same (accounts : race.Accounts late) (submission : after.submission = race.submission)
    (pending : after.link.pending = race.link.pending)
    (tearDown : after.tearDown = .emptying ↔ race.tearDown = .emptying) : after.Accounts late where
  timely := by
    rw [submission]
    exact accounts.timely
  emptied := by
    rw [submission, pending]
    exact fun none emptied => accounts.emptied none fun whole => emptied (tearDown.mpr whole)
  stands := by
    rw [submission]
    exact fun handle registered => (accounts.stands handle registered).of_same pending tearDown

theorem tear_of_emptied (emptied : race.tearDown ≠ .emptying) :
    race.tear.submission = race.submission ∧ race.tear.link.pending = race.link.pending ∧
      race.tear.tearDown ≠ .emptying := by
  unfold Race.tear
  split
  · contradiction
  · exact ⟨rfl, rfl, nofun⟩
  · exact ⟨rfl, rfl, nofun⟩
  · exact ⟨rfl, rfl, emptied⟩

theorem Accounts.tear (accounts : race.Accounts late) (ticketed : race.link.pending.Ticketed) :
    race.tear.Accounts late := by
  by_cases whole : race.tearDown = .emptying
  · have step : race.tear = { race with link := race.link.failAll, tearDown := .publishing } := by
      simp only [Race.tear, whole]
    rw [step]
    refine ⟨accounts.timely, fun _ _ => PendingTable.failAll_eq.2, fun handle registered => ?_⟩
    exact (accounts.stands handle registered).empty ticketed whole rfl nofun
  · obtain ⟨submission, pending, emptied⟩ := tear_of_emptied whole
    exact accounts.of_same submission pending (iff_of_false emptied whole)

theorem Stands.withdraw (stands : race.Stands late handle) (emptied : race.tearDown ≠ .emptying) :
    (race.link.withdraw handle).pending.requests = [] := by
  -- A late request is the only one there is, and it is withdrawn under its own number.
  have own : ∀ request ∈ race.link.pending.requests, request.sequence = handle.sequence := by
    intro request waits
    by_cases late : late
    · obtain ⟨only, same, rfl⟩ := stands.kept emptied late
      rw [same, List.mem_singleton] at waits
      rw [waits]
      rfl
    · rw [(stands.lost emptied late).1] at waits
      cases waits
  rw [List.eq_nil_iff_forall_not_mem]
  intro request stays
  obtain ⟨waits, other⟩ := PendingTable.mem_complete.mp stays
  exact other (own request waits)

theorem Accounts.register (accounts : race.Accounts late) (registering : race.submission = .registering) :
    race.submit.Accounts (late ∨ race.submission = .registering ∧ race.tearDown ≠ .emptying) := by
  have timely := accounts.timely (Or.inr registering)
  have empty := accounts.emptied (by rw [registering]; rfl)
  have step : race.submit =
      { race with
        link := (race.link.register .submitSm).2
        submission := .writing (race.link.register .submitSm).1 } := by
    simp only [Race.submit, registering]
  rw [step]
  refine ⟨fun impossible => ?_, nofun, ?_⟩
  · rcases impossible with impossible | impossible <;> cases impossible
  · intro handle registered
    cases registered
    refine ⟨fun whole => ⟨?_, _, List.mem_cons_self, rfl⟩, fun emptied _ => ?_, fun emptied timely => ?_⟩
    · rintro (late | ⟨_, emptied⟩)
      · exact timely late
      · exact emptied whole
    · simp only [Link.register, PendingTable.register, empty emptied]
      exact ⟨_, rfl, rfl⟩
    · exact absurd (Or.inr ⟨registering, emptied⟩) timely

theorem Accounts.submit (accounts : race.Accounts late) :
    race.submit.Accounts (late ∨ race.submission = .registering ∧ race.tearDown ≠ .emptying) := by
  by_cases registering : race.submission = .registering
  · exact accounts.register registering
  · rw [or_iff_left fun now => registering now.1]
    unfold Race.submit
    split
    · rename_i checking
      have empty := accounts.emptied (by rw [checking]; rfl)
      have timely := accounts.timely (Or.inl checking)
      split
      · exact ⟨fun _ => timely, fun _ => empty, nofun⟩
      · exact ⟨fun _ => timely, fun _ => empty, nofun⟩
    · contradiction
    · rename_i handle writing
      have stands := accounts.stands handle (by rw [writing]; rfl)
      have pending := race.link.pending_write
        { sequence := handle.sequence, body := .submitSm race.message }
      split
      · rename_i link wrote
        rw [wrote] at pending
        refine ⟨nofun, nofun, ?_⟩
        intro handle registered
        cases registered
        exact stands.of_same pending Iff.rfl
      · rename_i error link failed
        rw [failed] at pending
        refine ⟨nofun, nofun, ?_⟩
        intro handle registered
        cases registered
        exact stands.of_same pending Iff.rfl
    · rename_i handle error withdrawing
      have stands := accounts.stands handle (by rw [withdrawing]; rfl)
      exact ⟨nofun, fun _ emptied => stands.withdraw emptied, nofun⟩
    · exact accounts

theorem ticketed_take (ticketed : race.link.pending.Ticketed) (turn : Turn) :
    (race.take turn).link.pending.Ticketed := ticketed.evolves (race.evolves_take turn)

theorem Accounts.run {turns : List Turn} (accounts : race.Accounts late)
    (ticketed : race.link.pending.Ticketed) : (race.run turns).Accounts (late ∨ race.RegistersLate turns) := by
  induction turns generalizing race late with
  | nil =>
      rw [RegistersLate, or_false]
      exact accounts
  | cons turn turns ih =>
      have after : (race.take turn).Accounts
          (late ∨ turn = .submit ∧ race.submission = .registering ∧ race.tearDown ≠ .emptying) := by
        cases turn with
        | submit =>
            simp only [true_and]
            exact accounts.submit
        | tearDown =>
            simp only [reduceCtorEq, false_and, or_false]
            exact accounts.tear ticketed
      rw [RegistersLate, ← or_assoc]
      exact ih after (ticketed_take ticketed turn)

theorem tearDown_submit (race : Race) : race.submit.tearDown = race.tearDown := by
  unfold Race.submit
  split
  · split <;> rfl
  · rfl
  · split <;> rfl
  · rfl
  · rfl

theorem lost_run {request : PendingRequest} {turns : List Turn} (ticketed : race.link.pending.Ticketed)
    (waits : request ∈ race.link.pending.requests) (whole : race.tearDown = .emptying)
    (emptied : (race.run turns).tearDown ≠ .emptying) :
    (race.run turns).link.pending.outcome? request.handle = some (.error .connectionLost) := by
  induction turns generalizing race with
  | nil => exact absurd whole emptied
  | cons turn turns ih =>
      have later : (race.take turn).link.pending.outcome? request.handle = some (.error .connectionLost) →
          (race.run (turn :: turns)).link.pending.outcome? request.handle =
            some (.error .connectionLost) := by
        intro lost
        exact ((race.take turn).evolves_run turns).outcome?_eq (ticketed_take ticketed turn) lost
      -- Before the table is emptied a request only leaves it as lost.
      cases turn with
      | tearDown =>
          refine later ?_
          simp only [take, Race.tear, whole]
          exact ticketed.outcome?_of_leaving waits rfl
      | submit =>
          rcases (race.evolves_take .submit).waits_or_resolved ticketed waits with waits | ⟨_, rfl, lost⟩
          · exact ih (ticketed_take ticketed .submit) waits (race.tearDown_submit.trans whole) emptied
          · exact later lost

end

structure Decides (start : Race) (turns : List Turn) : Prop where
  others : ∀ request ∈ start.link.pending.requests,
    (start.run turns).link.pending.outcome? request.handle = some (.error .connectionLost)
  refused : ∀ error, (start.run turns).submission = .returned (.error error) →
    (start.run turns).link.pending.requests = []
  timely : ∀ handle, (start.run turns).submission = .returned (.ok handle) → ¬ start.RegistersLate turns →
    (start.run turns).link.pending.requests = [] ∧
      (start.run turns).link.pending.outcome? handle = some (.error .connectionLost)
  late : ∀ handle, (start.run turns).submission = .returned (.ok handle) → start.RegistersLate turns →
    ∃ request, (start.run turns).link.pending.requests = [request] ∧ request.handle = handle ∧
      (start.run turns).link.pending.outcome? handle = none

theorem decides_of_ticketed {link : Link} {message : ShortMessage} {turns : List Turn}
    (ticketed : link.pending.Ticketed)
    (finished : (({ link, message } : Race).run turns).tearDown = .finished) :
    ({ link, message } : Race).Decides turns := by
  have emptied : (({ link, message } : Race).run turns).tearDown ≠ .emptying := by
    rw [finished]
    exact nofun
  have beginning : Accounts False { link, message } :=
    ⟨fun _ => id, fun _ impossible => absurd rfl impossible, nofun⟩
  have accounts : (({ link, message } : Race).run turns).Accounts
      (False ∨ ({ link, message } : Race).RegistersLate turns) := beginning.run ticketed
  rw [false_or] at accounts
  refine ⟨fun request waits => lost_run ticketed waits rfl emptied, ?_, ?_, ?_⟩
  · intro error returned
    exact accounts.emptied (by rw [returned]; rfl) emptied
  · intro handle returned timely
    exact (accounts.stands handle (by rw [returned]; rfl)).lost emptied timely
  · intro handle returned late
    obtain ⟨request, only, rfl⟩ := (accounts.stands handle (by rw [returned]; rfl)).kept emptied late
    have after := ticketed.evolves (evolves_run { link, message } turns)
    refine ⟨request, only, rfl, after.waiting ?_⟩
    rw [only]
    exact List.mem_singleton_self request

end Race

namespace Session

/-- However the steps of a submit and of the end of the listener fall, what waited is lost, and a submit
that fails leaves nothing behind. Its request outlives the listener exactly when it is registered after the
table has been emptied, and written all the same. -/
theorem submit_races_tearDown (config : SessionConfig) (handlers : HandlerTable) (sink : Sink)
    (moves : List Move) (message : ShortMessage) (turns : List Race.Turn)
    (finished : (({ link := ((starting config handlers sink).run moves).link, message } : Race).run
      turns).tearDown = .finished) :
    ({ link := ((starting config handlers sink).run moves).link, message } : Race).Decides turns :=
  Race.decides_of_ticketed
    (PendingTable.ticketed_new.evolves ((starting config handlers sink).evolves_run moves)) finished

def boundMoves : List Move :=
  [.start (.bind { systemId := "esme" }), .hear (.frame ⟨.ok, 1, .bindTransceiverResp {}⟩),
   .handled (.returned .ok), .resume, .start .enquireLink, .drop]

def sampleMessage : ShortMessage :=
  ({} : SessionConfig).message "Sender" "447700900123"
    { payload := [0x48], dataCoding := .gsm, header := none, units := 1 } false

def sampleRace : Race where
  link := ((starting {} .standard {}).run boundMoves).link
  message := sampleMessage

def lateTurns : List Race.Turn := [.submit, .tearDown, .submit, .submit, .tearDown, .tearDown]

theorem submit_races_tearDown_sample :
    (sampleRace.run lateTurns).tearDown = .finished ∧
      (sampleRace.run lateTurns).link.pending.outcome? ⟨2, .enquireLink, 1⟩ =
        some (.error .connectionLost) := by
  have finished : (sampleRace.run lateTurns).tearDown = .finished := by decide +kernel
  have waits : ⟨2, .enquireLink, 1, 0⟩ ∈ sampleRace.link.pending.requests := by decide +kernel
  have decides := submit_races_tearDown {} .standard {} boundMoves sampleMessage lateTurns finished
  exact ⟨finished, decides.others _ waits⟩

/-- The submit returns its handle, the listener has ended, and the request is still there. -/
theorem submit_outlives_listener :
    (sampleRace.run lateTurns).submission = .returned (.ok ⟨3, .submitSm, 2⟩) ∧
      (sampleRace.run lateTurns).tearDown = .finished ∧
      (sampleRace.run lateTurns).link.state = .disconnected ∧
      (sampleRace.run lateTurns).link.pending.outcome? ⟨3, .submitSm, 2⟩ = none := by
  decide +kernel

end Session

end Smpp
