import Smpp.Proofs.Codec.RoundTrip
import Smpp.Proofs.Stream.Writing

/-!
What a transport gets from a writer, whatever the writer is told to do. As long as the transport takes
all that it is offered it has whole frames, and once it refuses something it takes nothing more. So it
always has a beginning of the frames that could be encoded before the end.
-/

namespace Smpp

theorem Frame.ne_nil_of_toOctets {frame : Frame} {octets : Octets} (encoded : frame.toOctets = .ok octets) :
    octets ≠ [] := by
  obtain ⟨encodable, rfl⟩ := toOctets_eq_ok_iff.mp encoded
  obtain ⟨_, body, _, _, whole⟩ := encode_eq_iff.mp (encode_of_failure_eq_none encodable)
  rw [whole]
  exact List.append_ne_nil_of_left_ne_nil (List.cons_ne_nil _ _) body

theorem Sink.push_of_full {sink : Sink} (full : sink.room = some 0) (octets : Octets) :
    sink.push octets = (sink, octets) := by
  obtain ⟨accepted, room, refusal⟩ := sink
  cases full
  simp [push]

theorem Sink.room_of_left {sink : Sink} {octets : Octets} (left : (sink.push octets).2 ≠ []) :
    (sink.push octets).1.room = some 0 := by
  unfold push at left ⊢
  split
  · rename_i unlimited
    simp [unlimited] at left
  · rename_i room limited
    simp only [limited, ne_eq, List.drop_eq_nil_iff, Nat.not_le] at left
    simp only [Option.some.injEq]
    omega

def Sink.Takes (sink : Sink) (count : Nat) : Prop := ∀ room, sink.room = some room → count ≤ room

theorem Sink.push_of_takes {sink : Sink} {octets : Octets} {count : Nat}
    (takes : sink.Takes (octets.length + count)) :
    (sink.push octets).2 = [] ∧ (sink.push octets).1.Takes count := by
  unfold push
  split
  · rename_i unlimited
    refine ⟨rfl, fun room limited => ?_⟩
    cases unlimited.symm.trans limited
  · rename_i room limited
    have enough := takes room limited
    refine ⟨List.drop_eq_nil_of_le (by omega), fun left same => ?_⟩
    cases same
    exact Nat.le_sub_of_add_le (by omega)

theorem Sink.room_push {sink : Sink} (unlimited : sink.room = none) (octets : Octets) :
    (sink.push octets).1.room = none := by
  simp only [push, unlimited]

theorem Sink.accepted_push (sink : Sink) (octets : Octets) :
    sink.accepted <+: (sink.push octets).1.accepted := by
  unfold push
  split <;> exact List.prefix_append _ _

namespace Outbound

def IsStuck (writer : Outbound) : Prop := writer.sink.room = some 0

def IsMute (writer : Outbound) : Prop := writer.IsStuck ∨ writer.isClosed = true

section

variable {writer after : Outbound} {octets : Octets} {reason : String} {frame : Frame}

theorem accepted_initial (writer : Outbound) : writer.sink.accepted <+: writer.received :=
  List.prefix_append _ _

theorem stuck_of_flush (refused : writer.flush = (.error reason, after)) :
    after.IsStuck ∧ after.sink.accepted <+: writer.received := by
  have same := (received_flush refused).1
  refine ⟨?_, same ▸ after.accepted_initial⟩
  unfold flush at refused
  dsimp only at refused
  split at refused
  · cases refused
  · rename_i left
    cases refused
    exact Sink.room_of_left (by simpa using left)

theorem stuck_of_bypass (empty : writer.buffered = [])
    (refused : writer.bypass octets = (.error reason, after)) :
    after.IsStuck ∧ after.sink.accepted <+: writer.received ++ octets := by
  have splits := Sink.push_splits writer.sink octets
  unfold bypass at refused
  dsimp only at refused
  split at refused
  · cases refused
  · rename_i left
    split at refused
    · cases refused
    · cases refused
      refine ⟨Sink.room_of_left (by simpa using left), ?_⟩
      rw [received, empty, List.append_nil, ← splits]
      exact List.prefix_append _ _

theorem stuck_of_put (refused : writer.put octets = (.error reason, after)) :
    after.IsStuck ∧ after.sink.accepted <+: writer.received ++ octets := by
  rcases writer.put_cases octets with ⟨reason, middle, flushed, same⟩ | ⟨middle, begun, empty, same⟩
  · rw [same] at refused
    cases refused
    obtain ⟨stuck, starts⟩ := stuck_of_flush flushed
    exact ⟨stuck, starts.trans (List.prefix_append _ _)⟩
  · have received : middle.received = writer.received := by
      rcases begun with rfl | flushed
      · rfl
      · exact (received_flush flushed).1
    rw [same] at refused
    unfold place at refused
    split at refused
    · cases refused
    · rename_i large
      rw [← received]
      exact stuck_of_bypass (empty (by omega)) refused

/-- A frame that can be encoded and is not written finds the writer closed, or it leaves the transport
with a beginning of it. -/
theorem closed_or_stuck_of_refused (encoded : frame.toOctets = .ok octets)
    (refused : writer.write frame = (.error (.transport reason), after)) :
    writer.isClosed = true ∨ after.IsStuck ∧ after.sink.accepted <+: writer.received ++ octets := by
  simp only [write, encoded] at refused
  split at refused
  · rename_i closed
    exact Or.inl closed
  · split at refused
    · rename_i placed
      cases refused
      exact Or.inr (stuck_of_put placed)
    · rename_i middle placed
      split at refused
      · rename_i flushed
        cases refused
        rw [← (received_put placed).1]
        exact Or.inr (stuck_of_flush flushed)
      · cases refused

theorem write_preserves {motive : Outbound → Prop}
    (flush : ∀ writer, motive writer → motive writer.flush.2)
    (place : ∀ writer octets, motive writer → motive (writer.place octets).2) (holds : motive writer)
    (frame : Frame) : motive (writer.write frame).2 := by
  have put : ∀ octets, motive (writer.put octets).2 := by
    intro octets
    have flushes := flush writer holds
    rcases writer.put_cases octets with ⟨reason, middle, flushed, same⟩ | ⟨middle, begun, _, same⟩
    · rw [flushed] at flushes
      rw [same]
      exact flushes
    · rw [same]
      rcases begun with rfl | flushed
      · exact place middle octets holds
      · rw [flushed] at flushes
        exact place middle octets flushes
  unfold write
  split
  · exact holds
  · rename_i octets _
    split
    · exact holds
    · have placed := put octets
      split
      · rename_i stopped
        rw [stopped] at placed
        exact placed
      · rename_i middle done
        rw [done] at placed
        have flushes := flush middle placed
        split
        · rename_i flushed
          rw [flushed] at flushes
          exact flushes
        · rename_i flushed
          rw [flushed] at flushes
          exact flushes

theorem isClosed_flush (writer : Outbound) : writer.flush.2.isClosed = writer.isClosed := by
  unfold flush
  dsimp only
  split <;> rfl

theorem isClosed_place (writer : Outbound) (octets : Octets) :
    (writer.place octets).2.isClosed = writer.isClosed := by
  unfold place bypass
  dsimp only
  split
  · rfl
  · split
    · rfl
    · split <;> rfl

theorem isClosed_write (writer : Outbound) (frame : Frame) :
    (writer.write frame).2.isClosed = writer.isClosed :=
  write_preserves (motive := fun other => other.isClosed = writer.isClosed)
    (fun other same => other.isClosed_flush.trans same)
    (fun other octets same => (other.isClosed_place octets).trans same) rfl frame

theorem accepted_flush (writer : Outbound) : writer.sink.accepted <+: writer.flush.2.sink.accepted := by
  have grows := writer.sink.accepted_push writer.buffered
  unfold flush
  dsimp only
  split <;> exact grows

theorem accepted_place (writer : Outbound) (octets : Octets) :
    writer.sink.accepted <+: (writer.place octets).2.sink.accepted := by
  have grows := writer.sink.accepted_push octets
  unfold place bypass
  dsimp only
  split
  · exact List.prefix_refl _
  · split
    · exact grows
    · split <;> exact grows

theorem accepted_write (writer : Outbound) (frame : Frame) :
    writer.sink.accepted <+: (writer.write frame).2.sink.accepted :=
  write_preserves (motive := fun other => writer.sink.accepted <+: other.sink.accepted)
    (fun other grown => grown.trans other.accepted_flush)
    (fun other octets grown => grown.trans (other.accepted_place octets)) (List.prefix_refl _) frame

theorem room_flush (writer : Outbound) (unlimited : writer.sink.room = none) :
    writer.flush.2.sink.room = none := by
  have stays := Sink.room_push unlimited writer.buffered
  unfold flush
  dsimp only
  split <;> exact stays

theorem room_place (writer : Outbound) (unlimited : writer.sink.room = none) (octets : Octets) :
    (writer.place octets).2.sink.room = none := by
  have stays := Sink.room_push unlimited octets
  unfold place bypass
  dsimp only
  split
  · exact unlimited
  · split
    · exact stays
    · split <;> exact stays

theorem sink_flush_of_stuck (stuck : writer.IsStuck) : writer.flush.2.sink = writer.sink := by
  unfold flush
  rw [Sink.push_of_full stuck]
  dsimp only
  split <;> rfl

theorem sink_place_of_stuck (stuck : writer.IsStuck) (octets : Octets) :
    (writer.place octets).2.sink = writer.sink := by
  unfold place bypass
  rw [Sink.push_of_full stuck]
  dsimp only
  split
  · rfl
  · split
    · rfl
    · split <;> rfl

theorem sink_write_of_stuck (stuck : writer.IsStuck) (frame : Frame) :
    (writer.write frame).2.sink = writer.sink := by
  have remains : ∀ {other : Outbound}, other.sink = writer.sink → other.IsStuck := by
    intro other same
    rw [IsStuck, same]
    exact stuck
  exact write_preserves (motive := fun other => other.sink = writer.sink)
    (fun other same => (sink_flush_of_stuck (remains same)).trans same)
    (fun other octets same => (sink_place_of_stuck (remains same) octets).trans same) rfl frame

theorem accepted_grows_shutdown (writer : Outbound) :
    writer.sink.accepted <+: writer.shutdown.2.sink.accepted := by
  unfold shutdown
  split
  · exact List.prefix_refl _
  · exact writer.accepted_flush

theorem sink_shutdown_of_stuck (stuck : writer.IsStuck) : writer.shutdown.2.sink = writer.sink := by
  unfold shutdown
  split
  · rfl
  · exact sink_flush_of_stuck stuck

theorem write_of_closed (closed : writer.isClosed = true) (frame : Frame) :
    (writer.write frame).2 = writer := by
  unfold write
  split
  · rfl
  · rw [if_pos closed]

theorem shutdown_of_closed (closed : writer.isClosed = true) : writer.shutdown = (.ok (), writer) := by
  rw [shutdown, if_pos closed]

theorem isClosed_shutdown (writer : Outbound) : writer.shutdown.2.isClosed = true := by
  unfold shutdown
  split
  · assumption
  · rfl

theorem not_written_of_closed (closed : writer.isClosed = true) : writer.write frame ≠ (.ok (), after) := by
  intro written
  obtain ⟨encodable, _⟩ := received_write written
  simp only [write, Frame.toOctets_eq_ok_iff.mpr ⟨encodable, rfl⟩, closed, if_true, Prod.mk.injEq,
    reduceCtorEq, false_and] at written

theorem not_written_of_stuck (stuck : writer.IsStuck) : writer.write frame ≠ (.ok (), after) := by
  intro written
  obtain ⟨encodable, received, emptied, _⟩ := received_write written
  have same := sink_write_of_stuck stuck frame
  rw [written] at same
  rw [Outbound.received, Outbound.received, emptied, same, List.append_nil, List.append_assoc,
    List.self_eq_append_right, List.append_eq_nil_iff] at received
  exact Frame.ne_nil_of_toOctets (Frame.toOctets_eq_ok_iff.mpr ⟨encodable, rfl⟩) received.2

theorem not_written_of_mute (mute : writer.IsMute) : writer.write frame ≠ (.ok (), after) := by
  rcases mute with stuck | closed
  · exact not_written_of_stuck stuck
  · exact not_written_of_closed closed

theorem flush_of_takes {count : Nat} (takes : writer.sink.Takes (writer.buffered.length + count)) :
    ∃ after, writer.flush = (.ok (), after) ∧ after.buffered = [] ∧ after.sink.Takes count := by
  obtain ⟨taken, still⟩ := Sink.push_of_takes takes
  refine ⟨{ writer with sink := (writer.sink.push writer.buffered).1, buffered := [] }, ?_, rfl, still⟩
  simp only [flush, taken, List.isEmpty_nil, if_true]

theorem place_of_takes {count : Nat}
    (takes : writer.sink.Takes (writer.buffered.length + octets.length + count)) :
    ∃ after, writer.place octets = (.ok (), after) ∧ after.sink.Takes (after.buffered.length + count) := by
  unfold place bypass
  split
  · refine ⟨_, rfl, ?_⟩
    rw [List.length_append]
    exact takes
  · rw [Nat.add_comm writer.buffered.length, Nat.add_assoc] at takes
    obtain ⟨taken, still⟩ := Sink.push_of_takes takes
    refine ⟨{ writer with sink := (writer.sink.push octets).1 }, ?_, still⟩
    simp only [taken, List.isEmpty_nil, if_true]

theorem written_of_takes (count : Nat) (opened : writer.isClosed = false)
    (takes : writer.sink.Takes (writer.buffered.length + frame.encode.octets.length + count))
    (encodable : frame.encode.failure = none) :
    ∃ after, writer.write frame = (.ok (), after) ∧ after.buffered = [] ∧ after.sink.Takes count := by
  have put : ∃ after, writer.put frame.encode.octets = (.ok (), after) ∧
      after.sink.Takes (after.buffered.length + count) := by
    have room := takes
    rw [Nat.add_assoc] at room
    obtain ⟨emptied, flushes, empty, still⟩ := flush_of_takes room
    rcases writer.put_cases frame.encode.octets with
      ⟨reason, middle, refused, _⟩ | ⟨middle, begun, _, same⟩
    · rw [flushes] at refused
      cases refused
    · rw [same]
      rcases begun with rfl | flushed
      · exact place_of_takes takes
      · rw [flushes] at flushed
        cases flushed
        apply place_of_takes
        rw [empty, List.length_nil, Nat.zero_add]
        exact still
  obtain ⟨middle, placed, room⟩ := put
  obtain ⟨after, flushed, emptied, still⟩ := flush_of_takes room
  refine ⟨after, ?_, emptied, still⟩
  simp only [write, Frame.toOctets_eq_ok_iff.mpr ⟨encodable, rfl⟩, opened, placed, flushed,
    Bool.false_eq_true, if_false]

theorem written_of_unlimited (opened : writer.isClosed = false) (unlimited : writer.sink.room = none)
    (encodable : frame.encode.failure = none) :
    ∃ after, writer.write frame = (.ok (), after) ∧ after.sink.room = none := by
  have takes : ∀ count, writer.sink.Takes count := by
    intro count room limited
    cases unlimited.symm.trans limited
  have stays := write_preserves (motive := fun other => other.sink.room = none)
    (fun other same => other.room_flush same) (fun other octets same => other.room_place same octets)
    unlimited frame
  obtain ⟨after, written, _⟩ := written_of_takes 0 opened (takes _) encodable
  rw [written] at stays
  exact ⟨after, written, stays⟩

theorem transport_of_not_written (encoded : frame.toOctets = .ok octets)
    (failed : ∀ after, writer.write frame ≠ (.ok (), after)) :
    ∃ reason, (writer.write frame).1 = .error (.transport reason) := by
  cases written : writer.write frame with
  | mk outcome after =>
      cases outcome with
      | ok done => exact absurd written (failed after)
      | error error =>
          cases error with
          | transport reason => exact ⟨reason, rfl⟩
          | encoding error =>
              obtain ⟨refused, _⟩ := write_of_encoding written
              rw [(Frame.toOctets_eq_ok_iff.mp encoded).1] at refused
              cases refused

end

inductive Command
  | write (frame : Frame)
  | shutdown

def perform (writer : Outbound) : Command → Except WriteError Unit × Outbound
  | .write frame => writer.write frame
  | .shutdown => (writer.shutdown.1.mapError .transport, writer.shutdown.2)

def after (writer : Outbound) (commands : List Command) : Outbound :=
  commands.foldl (fun writer command => (writer.perform command).2) writer

def Command.offer : Command → Octets
  | .write frame =>
      match frame.toOctets with
      | .ok octets => octets
      | .error _ => []
  | .shutdown => []

/-- The encodings of the frames that can be encoded, in their order, up to the first shutdown. -/
def offered : List Command → Octets
  | [] => []
  | .shutdown :: _ => []
  | .write frame :: others => (Command.write frame).offer ++ offered others

@[simp] theorem after_nil (writer : Outbound) : writer.after [] = writer := rfl

@[simp] theorem after_cons (writer : Outbound) (command : Command) (others : List Command) :
    writer.after (command :: others) = (writer.perform command).2.after others := rfl

theorem after_append (writer : Outbound) (earlier later : List Command) :
    writer.after (earlier ++ later) = (writer.after earlier).after later := List.foldl_append

theorem offered_initial (earlier later : List Command) : offered earlier <+: offered (earlier ++ later) := by
  induction earlier with
  | nil => exact List.nil_prefix
  | cons command others ih =>
      cases command with
      | shutdown => exact List.prefix_refl _
      | write frame => exact (List.prefix_append_right_inj _).mpr ih

theorem Command.offer_of_ok {frame : Frame} {octets : Octets} (encoded : frame.toOctets = .ok octets) :
    (Command.write frame).offer = octets := by
  simp only [offer, encoded]

theorem Command.offer_of_error {frame : Frame} {error : CodecError}
    (failed : frame.toOctets = .error error) : (Command.write frame).offer = [] := by
  simp only [offer, failed]

/-- The transport has all of the octets and the writer keeps none, or it has a beginning of them and
takes nothing more. -/
def Passes (writer : Outbound) (octets : Octets) : Prop :=
  (writer.buffered = [] ∧ writer.sink.accepted = octets) ∨
    (writer.IsStuck ∧ writer.sink.accepted <+: octets)

section

variable {writer : Outbound} {octets : Octets}

theorem Passes.starts (passes : writer.Passes octets) : writer.sink.accepted <+: octets := by
  rcases passes with ⟨_, same⟩ | ⟨_, starts⟩
  · exact ⟨[], by rw [same, List.append_nil]⟩
  · exact starts

theorem Passes.of_sink {before : Outbound} (stuck : before.IsStuck) (starts : before.sink.accepted <+: octets)
    (same : writer.sink = before.sink) : writer.Passes octets := by
  refine Or.inr ⟨?_, ?_⟩
  · rw [IsStuck, same]
    exact stuck
  · rw [same]
    exact starts

theorem Passes.shutdown (passes : writer.Passes octets) : writer.shutdown.2.Passes octets := by
  rcases passes with ⟨empty, same⟩ | ⟨stuck, starts⟩
  · exact Or.inl ⟨buffered_shutdown empty, (accepted_shutdown empty).trans same⟩
  · exact .of_sink stuck starts (sink_shutdown_of_stuck stuck)

theorem accepted_of_written {after : Outbound} {frame : Frame} (empty : writer.buffered = [])
    (written : writer.write frame = (.ok (), after)) :
    after.buffered = [] ∧ after.sink.accepted = writer.sink.accepted ++ (Command.write frame).offer := by
  obtain ⟨encodable, received, emptied, _⟩ := received_write written
  simp only [Outbound.received, empty, emptied, List.append_nil] at received
  rw [Command.offer_of_ok (Frame.toOctets_eq_ok_iff.mpr ⟨encodable, rfl⟩), received]
  exact ⟨emptied, rfl⟩

theorem Passes.write (passes : writer.Passes octets) (opened : writer.isClosed = false) (frame : Frame) :
    (writer.write frame).2.Passes (octets ++ (Command.write frame).offer) := by
  rcases passes with ⟨empty, same⟩ | ⟨stuck, starts⟩
  · cases written : writer.write frame with
    | mk outcome after =>
        cases encoded : frame.toOctets with
        | error failure =>
            simp only [Outbound.write, encoded, Prod.mk.injEq] at written
            obtain ⟨_, rfl⟩ := written
            rw [Command.offer_of_error encoded, List.append_nil]
            exact Or.inl ⟨empty, same⟩
        | ok encoding =>
            cases outcome with
            | ok done =>
                obtain ⟨emptied, accepted⟩ := accepted_of_written empty written
                exact Or.inl ⟨emptied, by rw [accepted, same]⟩
            | error error =>
                cases error with
                | encoding failure =>
                    have failed := (write_of_encoding written).1
                    rw [(Frame.toOctets_eq_ok_iff.mp encoded).1] at failed
                    cases failed
                | transport reason =>
                    rcases closed_or_stuck_of_refused encoded written with closed | ⟨stuck, starts⟩
                    · rw [opened] at closed
                      cases closed
                    · rw [received, empty, List.append_nil, same] at starts
                      rw [Command.offer_of_ok encoded]
                      exact Or.inr ⟨stuck, starts⟩
  · exact .of_sink stuck (starts.trans (List.prefix_append _ _)) (sink_write_of_stuck stuck frame)

theorem after_of_closed (closed : writer.isClosed = true) (commands : List Command) :
    writer.after commands = writer := by
  induction commands with
  | nil => rfl
  | cons command others ih =>
      have same : (writer.perform command).2 = writer := by
        cases command with
        | write frame => exact write_of_closed closed frame
        | shutdown => exact congrArg Prod.snd (shutdown_of_closed closed)
      rw [after_cons, same, ih]

theorem mute_of_failure {command : Command} {reason : String}
    (failed : (writer.perform command).1 = .error (.transport reason)) :
    (writer.perform command).2.IsMute := by
  cases command with
  | shutdown => exact Or.inr writer.isClosed_shutdown
  | write frame =>
      have stays := writer.isClosed_write frame
      cases wrote : writer.write frame with
      | mk outcome after =>
          rw [wrote] at stays
          simp only [perform, wrote] at failed ⊢
          subst failed
          cases encoded : frame.toOctets with
          | error failure => simp [Outbound.write, encoded] at wrote
          | ok octets =>
              rcases closed_or_stuck_of_refused encoded wrote with closed | ⟨stuck, _⟩
              · exact Or.inr (stays.trans closed)
              · exact Or.inl stuck

theorem after_of_stuck (stuck : writer.IsStuck) (commands : List Command) :
    (writer.after commands).IsStuck := by
  induction commands generalizing writer with
  | nil => exact stuck
  | cons command others ih =>
      have same : (writer.perform command).2.sink = writer.sink := by
        cases command with
        | write frame => exact sink_write_of_stuck stuck frame
        | shutdown => exact sink_shutdown_of_stuck stuck
      exact ih (by rw [IsStuck, same]; exact stuck)

theorem IsMute.after (mute : writer.IsMute) (commands : List Command) : (writer.after commands).IsMute := by
  rcases mute with stuck | closed
  · exact Or.inl (after_of_stuck stuck commands)
  · rw [after_of_closed closed]
    exact Or.inr closed

theorem Passes.after (passes : writer.Passes octets) (opened : writer.isClosed = false)
    (commands : List Command) : (writer.after commands).Passes (octets ++ offered commands) := by
  induction commands generalizing writer octets with
  | nil =>
      rw [offered, List.append_nil]
      exact passes
  | cons command others ih =>
      cases command with
      | shutdown =>
          have closed := writer.isClosed_shutdown
          rw [offered, List.append_nil, after_cons, perform, after_of_closed closed]
          exact passes.shutdown
      | write frame =>
          have next := ih (passes.write opened frame) ((writer.isClosed_write frame).trans opened)
          rw [List.append_assoc] at next
          exact next

theorem after_of_takes {count : Nat} {commands : List Command} (unended : .shutdown ∉ commands)
    (opened : writer.isClosed = false)
    (takes : writer.sink.Takes (writer.buffered.length + (offered commands).length + count)) :
    (writer.after commands).isClosed = false ∧
      (writer.after commands).sink.Takes ((writer.after commands).buffered.length + count) := by
  induction commands generalizing writer with
  | nil => exact ⟨opened, takes⟩
  | cons command others ih =>
      obtain ⟨goesOn, rest⟩ := not_or.mp (mt List.mem_cons.mpr unended)
      cases command with
      | shutdown => exact absurd rfl goesOn
      | write frame =>
          have still := (writer.isClosed_write frame).trans opened
          apply ih rest still
          cases encoded : frame.toOctets with
          | error failure =>
              rw [offered, Command.offer_of_error encoded, List.nil_append] at takes
              have same : writer.write frame = (.error (.encoding failure), writer) := by
                simp only [write, encoded]
              simp only [same]
              exact takes
          | ok octets =>
              obtain ⟨encodable, rfl⟩ := Frame.toOctets_eq_ok_iff.mp encoded
              rw [offered, Command.offer_of_ok encoded, List.length_append, ← Nat.add_assoc,
                Nat.add_assoc (writer.buffered.length + _)] at takes
              obtain ⟨after, written, emptied, room⟩ := written_of_takes _ opened takes encodable
              simp only [written, emptied, List.length_nil, Nat.zero_add]
              exact room

theorem unended_of_open {earlier : List Command} (opened : (writer.after earlier).isClosed = false) :
    .shutdown ∉ earlier := by
  induction earlier generalizing writer with
  | nil => exact List.not_mem_nil
  | cons command others ih =>
      cases command with
      | shutdown =>
          have closed := writer.isClosed_shutdown
          rw [after_cons, perform, after_of_closed closed, closed] at opened
          cases opened
      | write frame =>
          rw [List.mem_cons, not_or]
          exact ⟨nofun, ih opened⟩

theorem offered_append {earlier : List Command} (unended : .shutdown ∉ earlier) (later : List Command) :
    offered (earlier ++ later) = offered earlier ++ offered later := by
  induction earlier with
  | nil => rfl
  | cons command others ih =>
      obtain ⟨goesOn, rest⟩ := not_or.mp (mt List.mem_cons.mpr unended)
      cases command with
      | shutdown => exact absurd rfl goesOn
      | write frame => rw [List.cons_append, offered, offered, ih rest, List.append_assoc]

end

def opened (room : Option Nat) (refusal : String) : Outbound := { sink := { room, refusal } }

theorem passes_opened (room : Option Nat) (refusal : String) (commands : List Command) :
    ((opened room refusal).after commands).Passes (offered commands) :=
  (show (opened room refusal).Passes [] from Or.inl ⟨rfl, rfl⟩).after rfl commands

structure EmitsWhole (writer : Outbound) (commands : List Command) : Prop where
  started : ∀ earlier, earlier <+: commands → (writer.after earlier).sink.accepted <+: offered commands
  growing : ∀ earlier command later, commands = earlier ++ command :: later →
    (writer.after earlier).sink.accepted <+: (writer.after (earlier ++ [command])).sink.accepted
  written : ∀ earlier frame later, commands = earlier ++ .write frame :: later →
    .shutdown ∉ earlier → frame.encode.failure = none →
    writer.sink.Takes (offered (earlier ++ [.write frame])).length →
      ((writer.after earlier).write frame).1 = .ok ()
  complete : ∀ earlier frame later, commands = earlier ++ .write frame :: later →
    ((writer.after earlier).write frame).1 = .ok () →
      frame.encode.failure = none ∧
      offered (earlier ++ [.write frame]) = offered earlier ++ frame.encode.octets ∧
      (writer.after (earlier ++ [.write frame])).sink.accepted = offered (earlier ++ [.write frame])
  skipped : ∀ earlier frame later error, commands = earlier ++ .write frame :: later →
    frame.encode.failure = some error →
      (writer.after earlier).write frame = (.error (.encoding error), writer.after earlier)
  broken : ∀ earlier failing between frame later reason,
    commands = earlier ++ failing :: between ++ .write frame :: later →
      ((writer.after earlier).perform failing).1 = .error (.transport reason) →
      frame.encode.failure = none →
        ∃ reason, ((writer.after (earlier ++ failing :: between)).write frame).1 =
          .error (.transport reason)
  closed : ∀ earlier later, commands = earlier ++ .shutdown :: later →
    (writer.after commands).sink = (writer.after (earlier ++ [.shutdown])).sink ∧
      (writer.after commands).shutdown = (.ok (), writer.after commands)

theorem complete_of_passes {writer after : Outbound} {frame : Frame} {octets : Octets}
    (passes : writer.Passes octets) (written : writer.write frame = (.ok (), after)) :
    after.sink.accepted = octets ++ frame.encode.octets := by
  have encodable := (received_write written).1
  have encoded := Frame.toOctets_eq_ok_iff.mpr ⟨encodable, rfl⟩
  rcases passes with ⟨empty, same⟩ | ⟨stuck, _⟩
  · rw [(accepted_of_written empty written).2, same, Command.offer_of_ok encoded]
  · exact absurd written (not_written_of_stuck stuck)

section

variable {writer : Outbound}

def IsSettled (writer : Outbound) : Prop := ∃ octets, writer.Passes octets

theorem IsSettled.write (settled : writer.IsSettled) (frame : Frame) : (writer.write frame).2.IsSettled := by
  obtain ⟨octets, passes⟩ := settled
  cases closed : writer.isClosed with
  | true =>
      rw [write_of_closed closed]
      exact ⟨octets, passes⟩
  | false => exact ⟨_, passes.write closed frame⟩

theorem IsSettled.shutdown (settled : writer.IsSettled) : writer.shutdown.2.IsSettled := by
  obtain ⟨octets, passes⟩ := settled
  exact ⟨octets, passes.shutdown⟩

theorem IsSettled.accepted_of_written {after : Outbound} {frame : Frame} (settled : writer.IsSettled)
    (written : writer.write frame = (.ok (), after)) :
    after.sink.accepted = writer.sink.accepted ++ frame.encode.octets := by
  obtain ⟨octets, ⟨empty, _⟩ | ⟨stuck, _⟩⟩ := settled
  · exact complete_of_passes (Or.inl ⟨empty, rfl⟩) written
  · exact absurd written (not_written_of_stuck stuck)

end

/-- The transport has at all times a beginning of the frames that could be encoded before the first
shutdown, and after a write that works it has them all up to that frame. A write works as long as the
transport takes what has been offered. A frame that cannot be encoded leaves the writer as it was. After a
failure of the transport nothing is written any more, and after a shutdown nothing is taken and there is
nothing left to close. -/
theorem emits_whole_frames (room : Option Nat) (refusal : String) (commands : List Command) :
    (opened room refusal).EmitsWhole commands where
  started := by
    rintro earlier ⟨later, rfl⟩
    exact (passes_opened room refusal earlier).starts.trans (offered_initial earlier later)
  growing := by
    intro earlier command later _
    rw [after_append, after_cons, after_nil]
    cases command with
    | write frame => exact accepted_write _ frame
    | shutdown => exact accepted_grows_shutdown _
  written := by
    intro earlier frame later _ unended encodable takes
    have encoded := Frame.toOctets_eq_ok_iff.mpr ⟨encodable, rfl⟩
    rw [offered_append unended, offered, offered, List.append_nil, Command.offer_of_ok encoded,
      List.length_append] at takes
    have enough : (opened room refusal).sink.Takes
        ((opened room refusal).buffered.length + (offered earlier).length + frame.encode.octets.length) := by
      rw [opened, List.length_nil, Nat.zero_add]
      exact takes
    obtain ⟨still, left⟩ := after_of_takes unended rfl enough
    obtain ⟨after, written, _⟩ := written_of_takes 0 still left encodable
    rw [written]
  complete := by
    intro earlier frame later _ written
    cases wrote : ((opened room refusal).after earlier).write frame with
    | mk outcome after =>
        rw [wrote] at written
        cases written
        have encodable := (received_write wrote).1
        have unclosed : ((opened room refusal).after earlier).isClosed = false := by
          rw [Bool.eq_false_iff]
          exact fun closed => not_written_of_closed closed wrote
        have joined : offered (earlier ++ [.write frame]) = offered earlier ++ frame.encode.octets := by
          rw [offered_append (unended_of_open unclosed), offered, offered, List.append_nil,
            Command.offer_of_ok (Frame.toOctets_eq_ok_iff.mpr ⟨encodable, rfl⟩)]
        refine ⟨encodable, joined, ?_⟩
        rw [joined, after_append, after_cons, after_nil, perform, wrote]
        exact complete_of_passes (passes_opened room refusal earlier) wrote
  skipped := by
    intro earlier frame later error _ failed
    simp only [Outbound.write, Frame.toOctets, Encoding.result, failed]
  broken := by
    intro earlier failing between frame later reason _ failed encodable
    rw [after_append, after_cons]
    apply transport_of_not_written (Frame.toOctets_eq_ok_iff.mpr ⟨encodable, rfl⟩)
    exact fun _ => not_written_of_mute ((mute_of_failure failed).after between)
  closed := by
    rintro earlier later rfl
    have closed : ((opened room refusal).after (earlier ++ [.shutdown])).isClosed = true := by
      rw [after_append]
      exact isClosed_shutdown _
    have same := after_of_closed closed later
    rw [← after_append, List.append_assoc, List.singleton_append] at same
    rw [same]
    exact ⟨rfl, shutdown_of_closed closed⟩

/-- A transport that takes twenty octets has the first frame and four octets of the second. -/
example :
    ((opened (some 20) "sink is full").after
      [.write ⟨.ok, 1, .enquireLink⟩, .write ⟨.ok, 2, .unbind⟩, .shutdown]).sink.accepted =
      [0, 0, 0, 16, 0, 0, 0, 21, 0, 0, 0, 0, 0, 0, 0, 1, 0, 0, 0, 16] := by decide

end Outbound

end Smpp
