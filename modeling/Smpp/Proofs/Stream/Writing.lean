import Smpp.Stream.Outbound

/-!
What a writer does with one frame. The octets that the transport has taken and those that the writer
still keeps are what it was given, in that order; a write that works keeps none of them back.
-/

namespace Smpp

theorem Frame.toOctets_eq_ok_iff {frame : Frame} {octets : Octets} :
    frame.toOctets = .ok octets ↔ frame.encode.failure = none ∧ octets = frame.encode.octets := by
  unfold toOctets Encoding.result
  cases frame.encode.failure with
  | none =>
      simp only [Except.ok.injEq, true_and]
      exact eq_comm
  | some error => simp

theorem Sink.push_splits (sink : Sink) (octets : Octets) :
    (sink.push octets).1.accepted ++ (sink.push octets).2 = sink.accepted ++ octets := by
  unfold push
  split
  · simp
  · simp only [List.append_assoc, List.take_append_drop]

namespace Outbound

def received (writer : Outbound) : Octets := writer.sink.accepted ++ writer.buffered

section

variable {writer after : Outbound}

theorem received_flush {outcome : Except String Unit} (flushed : writer.flush = (outcome, after)) :
    after.received = writer.received ∧ after.isClosed = writer.isClosed := by
  have splits := Sink.push_splits writer.sink writer.buffered
  unfold flush at flushed
  cases pushed : writer.sink.push writer.buffered with
  | mk sink left =>
      rw [pushed] at flushed splits
      dsimp only at flushed
      split at flushed <;> cases flushed <;> exact ⟨splits, rfl⟩

theorem buffered_flush (flushed : writer.flush = (.ok (), after)) : after.buffered = [] := by
  unfold flush at flushed
  cases pushed : writer.sink.push writer.buffered with
  | mk sink left =>
      rw [pushed] at flushed
      dsimp only at flushed
      split at flushed
      · rename_i all
        cases flushed
        exact List.isEmpty_iff.mp all
      · cases flushed

theorem received_bypass {octets : Octets} (empty : writer.buffered = [])
    (placed : writer.bypass octets = (.ok (), after)) :
    after.received = writer.received ++ octets ∧ after.isClosed = writer.isClosed := by
  have splits := Sink.push_splits writer.sink octets
  unfold bypass at placed
  unfold received
  dsimp only at placed
  split at placed
  · rename_i all
    cases placed
    rw [List.isEmpty_iff.mp all, List.append_nil] at splits
    refine ⟨?_, rfl⟩
    simp only [empty, List.append_nil]
    exact splits
  · split at placed
    · cases placed
      rw [empty, List.append_nil]
      exact ⟨splits, rfl⟩
    · cases placed

/-- Where octets go once the buffer has room for them, or is empty. -/
def place (writer : Outbound) (octets : Octets) : Except String Unit × Outbound :=
  if octets.length < capacity then (.ok (), { writer with buffered := writer.buffered ++ octets })
  else writer.bypass octets

theorem put_cases (writer : Outbound) (octets : Octets) :
    (∃ reason middle, writer.flush = (.error reason, middle) ∧
      writer.put octets = (.error reason, middle)) ∨
    ∃ middle, (middle = writer ∨ writer.flush = (.ok (), middle)) ∧
      (capacity ≤ octets.length → middle.buffered = []) ∧ writer.put octets = middle.place octets := by
  unfold put
  by_cases full : capacity < writer.buffered.length + octets.length
  · rw [if_pos full]
    cases flushed : writer.flush with
    | mk outcome middle =>
        cases outcome with
        | error reason => exact Or.inl ⟨reason, middle, rfl, rfl⟩
        | ok done => exact Or.inr ⟨middle, Or.inr rfl, fun _ => buffered_flush flushed, rfl⟩
  · rw [if_neg full]
    refine Or.inr ⟨writer, Or.inl rfl, fun large => ?_, rfl⟩
    rw [← List.length_eq_zero_iff]
    omega

theorem received_place {octets : Octets} (empty : capacity ≤ octets.length → writer.buffered = [])
    (placed : writer.place octets = (.ok (), after)) :
    after.received = writer.received ++ octets ∧ after.isClosed = writer.isClosed := by
  unfold place at placed
  split at placed
  · cases placed
    exact ⟨(List.append_assoc ..).symm, rfl⟩
  · rename_i large
    exact received_bypass (empty (by omega)) placed

theorem received_put {octets : Octets} (placed : writer.put octets = (.ok (), after)) :
    after.received = writer.received ++ octets ∧ after.isClosed = writer.isClosed := by
  rcases writer.put_cases octets with ⟨reason, middle, _, refused⟩ | ⟨middle, begun, empty, same⟩
  · rw [refused] at placed
    cases placed
  · rw [same] at placed
    obtain ⟨received, stays⟩ := received_place empty placed
    rcases begun with rfl | flushed
    · exact ⟨received, stays⟩
    · obtain ⟨sameOctets, sameEnd⟩ := received_flush flushed
      rw [← sameOctets, ← sameEnd]
      exact ⟨received, stays⟩

theorem received_write {frame : Frame} (written : writer.write frame = (.ok (), after)) :
    frame.encode.failure = none ∧ after.received = writer.received ++ frame.encode.octets ∧
      after.buffered = [] ∧ after.isClosed = writer.isClosed := by
  unfold write at written
  split at written
  · cases written
  · rename_i octets encoded
    obtain ⟨encodes, rfl⟩ := Frame.toOctets_eq_ok_iff.mp encoded
    split at written
    · cases written
    · split at written
      · cases written
      · rename_i middle placed
        split at written
        · cases written
        · rename_i final flushed
          cases written
          obtain ⟨placedOctets, placedEnd⟩ := received_put placed
          obtain ⟨flushedOctets, flushedEnd⟩ := received_flush flushed
          exact ⟨encodes, flushedOctets.trans placedOctets, buffered_flush flushed,
            flushedEnd.trans placedEnd⟩

theorem write_of_encoding {frame : Frame} {error : CodecError}
    (refused : writer.write frame = (.error (.encoding error), after)) :
    frame.encode.failure = some error ∧ after = writer := by
  unfold write at refused
  split at refused
  · rename_i failed
    cases refused
    refine ⟨?_, rfl⟩
    unfold Frame.toOctets Encoding.result at failed
    split at failed
    · cases failed
    · rename_i found
      cases failed
      exact found
  · split at refused
    · cases refused
    · split at refused
      · cases refused
      · split at refused <;> cases refused

theorem buffered_shutdown (empty : writer.buffered = []) : writer.shutdown.2.buffered = [] := by
  unfold shutdown
  split
  · exact empty
  · simp only [flush, Sink.push, empty]
    cases writer.sink.room <;> simp

theorem accepted_shutdown (empty : writer.buffered = []) :
    writer.shutdown.2.sink.accepted = writer.sink.accepted := by
  unfold shutdown
  split
  · rfl
  · simp only [flush, Sink.push, empty]
    cases writer.sink.room <;> simp

end

end Outbound

end Smpp
