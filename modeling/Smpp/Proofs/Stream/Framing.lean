import Smpp.Proofs.Codec.Stability
import Smpp.Stream.Inbound

/-!
What a reader delivers is decided by the octets of the stream alone. `Delivers` says what that is
without a buffer, chunks or calls; the reader delivers it however the octets arrive and however often
a call is dropped while it waits for them.
-/

namespace Smpp

namespace Inbound

/-- The first frame of the octets, or the error that decoding it gives, and what follows the frame. -/
inductive Takes (policy : TagPolicy) (octets : Octets) : Event → Octets → Prop
  | frame {frame : Frame} {length : Nat}
      (decoded : Frame.decode policy octets = .ok (frame, length)) :
      Takes policy octets (.frame frame) (octets.drop length)
  | malformed {header : Header} {error : CodecError} {length : Nat}
      (whole : Frame.check octets = .ok length)
      (opens : (Header.decoder.decode octets).1 = .ok header)
      (refused : Frame.decode policy octets = .error error) :
      Takes policy octets (.malformed header error) (octets.drop length)

inductive Ends (octets : Octets) : Event → Prop
  | desync {length : UInt32} (declared : Frame.declared? octets = some length)
      (outside : length.toNat < 16 ∨ 65536 < length.toNat) :
      Ends octets (.desync (.invalidLength length 16 65536))
  | closed (empty : octets = []) : Ends octets .closed
  | cutOff (some : octets ≠ []) (partly : Frame.check octets = .error .incomplete) :
      Ends octets (.cutOff octets.length)

inductive Reads (policy : TagPolicy) : Octets → List Event → Octets → Prop
  | done (octets : Octets) : Reads policy octets [] octets
  | next {octets rest left : Octets} {event : Event} {events : List Event}
      (first : Takes policy octets event rest) (others : Reads policy rest events left) :
      Reads policy octets (event :: events) left

inductive Delivers (policy : TagPolicy) : Octets → List Event → Prop
  | last {octets : Octets} {event : Event} (ends : Ends octets event) : Delivers policy octets [event]
  | next {octets rest : Octets} {event : Event} {events : List Event}
      (first : Takes policy octets event rest) (others : Delivers policy rest events) :
      Delivers policy octets (event :: events)

section

variable {policy : TagPolicy} {octets rest : Octets} {event : Event}

theorem Takes.check (first : Takes policy octets event rest) :
    ∃ length, Frame.check octets = .ok length ∧ rest = octets.drop length := by
  cases first with
  | frame decoded => exact ⟨_, (Frame.decode_eq_ok_iff.mp decoded).1, rfl⟩
  | malformed whole opens refused => exact ⟨_, whole, rfl⟩

theorem Takes.unique (first : Takes policy octets event rest) {other : Event} {otherRest : Octets}
    (second : Takes policy octets other otherRest) : other = event ∧ otherRest = rest := by
  obtain ⟨length, whole, same⟩ := first.check
  obtain ⟨otherLength, otherWhole, otherSame⟩ := second.check
  cases whole.symm.trans otherWhole
  refine ⟨?_, otherSame.trans same.symm⟩
  cases first with
  | frame decoded =>
      cases second with
      | frame other =>
          cases decoded.symm.trans other
          rfl
      | malformed _ _ refused => cases decoded.symm.trans refused
  | malformed _ opens refused =>
      cases second with
      | frame decoded => cases decoded.symm.trans refused
      | malformed _ otherOpens otherRefused =>
          cases opens.symm.trans otherOpens
          cases refused.symm.trans otherRefused
          rfl

theorem Ends.not_whole (ends : Ends octets event) {length : Nat} (whole : Frame.check octets = .ok length) :
    False := by
  cases ends with
  | desync declared outside =>
      obtain ⟨declaredLength, same, exact, smallest, largest, _⟩ := Frame.check_eq_ok_iff.mp whole
      cases declared.symm.trans same
      unfold Header.size at smallest
      unfold Header.largestFrame at largest
      omega
  | closed empty =>
      subst empty
      cases whole
  | cutOff some partly => cases partly.symm.trans whole

theorem Ends.unique (ends : Ends octets event) {other : Event} (otherEnds : Ends octets other) :
    other = event := by
  have waits : ∀ {length : UInt32}, Frame.declared? octets = some length →
      (length.toNat < 16 ∨ 65536 < length.toNat) → Frame.check octets ≠ .error .incomplete := by
    intro length declared outside partly
    have inside := Frame.check_eq_incomplete_iff.mp partly length declared
    unfold Header.size Header.largestFrame at inside
    omega
  cases ends with
  | desync declared outside =>
      cases otherEnds with
      | desync otherDeclared otherOutside =>
          cases declared.symm.trans otherDeclared
          rfl
      | closed empty =>
          subst empty
          cases declared
      | cutOff some partly => exact absurd partly (waits declared outside)
  | closed empty =>
      subst empty
      cases otherEnds with
      | desync declared outside => cases declared
      | closed empty => rfl
      | cutOff some partly => exact absurd rfl some
  | cutOff some partly =>
      cases otherEnds with
      | desync declared outside => exact absurd partly (waits declared outside)
      | closed empty => exact absurd empty some
      | cutOff _ _ => rfl

theorem Delivers.unique {events others : List Event} (delivers : Delivers policy octets events)
    (otherwise : Delivers policy octets others) : others = events := by
  induction delivers generalizing others with
  | last ends =>
      cases otherwise with
      | last otherEnds => rw [ends.unique otherEnds]
      | next first _ =>
          obtain ⟨length, whole, _⟩ := first.check
          exact (ends.not_whole whole).elim
  | next first _ ih =>
      cases otherwise with
      | last ends =>
          obtain ⟨length, whole, _⟩ := first.check
          exact (ends.not_whole whole).elim
      | next second remaining =>
          obtain ⟨rfl, rfl⟩ := first.unique second
          rw [ih remaining]

theorem Reads.delivers {left : Octets} {events : List Event} (reads : Reads policy octets events left)
    (ends : Ends left event) : Delivers policy octets (events ++ [event]) := by
  induction reads with
  | done octets => exact .last ends
  | next first _ ih => exact .next first (ih ends)

end

theorem Event.ofFrame_take {policy : TagPolicy} {octets : Octets} {length : Nat} {header : Header}
    (whole : Frame.check octets = .ok length)
    (opens : (Header.decoder.decode octets).1 = .ok header) :
    Event.ofFrame policy (octets.take length) =
      match Frame.decode policy octets with
      | .ok (decoded, _) => .frame decoded
      | .error error => .malformed header error := by
  have bounds := Frame.check_bounds whole
  have opensFrame : (Header.decoder.decode (octets.take length)).1 = .ok header := by
    rw [← opens, ← Header.decode_append (by rw [List.length_take]; omega) (octets.drop length),
      List.take_append_drop]
  rw [Frame.decode_of_check whole]
  simp only [Event.ofFrame, Frame.ofOctets, opensFrame, bind, Except.bind]
  cases ((Frame.bodyDecoder policy header).decode ((octets.take length).drop Header.size)).1 <;> rfl

section

variable {reader rest : Inbound} {event : Event}

theorem takes_of_next? (found : reader.next? = some (event, rest)) (goesOn : event.isLast = false)
    (later : Octets) :
    rest.policy = reader.policy ∧
      Takes reader.policy (reader.buffered ++ later) event (rest.buffered ++ later) := by
  unfold next? at found
  split at found
  · rename_i length whole
    obtain ⟨header, opens, _⟩ := Header.decode_of_check whole
    have bounds := Frame.check_bounds whole
    have wholeLater := Frame.check_append whole later
    have opensLater := (Header.decode_append (by omega) later).trans opens
    rw [Event.ofFrame_take whole opens, ← Frame.decode_append whole later] at found
    simp only [Option.some.injEq, Prod.mk.injEq] at found
    obtain ⟨rfl, rfl⟩ := found
    refine ⟨rfl, ?_⟩
    rw [← List.drop_append_of_le_length bounds.2]
    split
    · rename_i frame taken decoded
      cases (Frame.decode_eq_ok_iff.mp decoded).1.symm.trans wholeLater
      exact .frame decoded
    · rename_i refused
      exact .malformed wholeLater opensLater refused
  · cases found
  · cases found
    cases goesOn

theorem ends_of_next? (found : reader.next? = some (event, rest)) (last : event.isLast = true)
    (later : Octets) : Ends (reader.buffered ++ later) event := by
  unfold next? at found
  split at found
  · rename_i length whole
    obtain ⟨header, opens, _⟩ := Header.decode_of_check whole
    rw [Event.ofFrame_take whole opens] at found
    cases found
    split at last <;> cases last
  · cases found
  · rename_i error decided checked
    cases found
    obtain ⟨length, declared, rfl, outside⟩ := (Frame.check_eq_error_iff decided).mp checked
    exact .desync (Frame.declared?_append declared later) outside

theorem check_of_next?_eq_none (missing : reader.next? = none) :
    Frame.check reader.buffered = .error .incomplete := by
  unfold next? at missing
  split at missing
  · cases missing
  · assumption
  · cases missing

theorem isLast_atEnd (reader : Inbound) : reader.atEnd.isLast = true := by
  unfold atEnd
  split <;> rfl

theorem ends_atEnd (missing : reader.next? = none) : Ends reader.buffered reader.atEnd := by
  have partly := check_of_next?_eq_none missing
  unfold atEnd
  split
  · rename_i empty
    exact .closed empty
  · rename_i some
    exact .cutOff some partly

end

theorem serve_eq (reader : Inbound) (arrivals : List Arrival) :
    reader.serve arrivals =
      match reader.call arrivals with
      | (.waiting, reader, _) => ([], some reader)
      | (.dropped, reader, left) => reader.serve left
      | (.returned event, reader, left) =>
          if event.isLast then ([event], none)
          else (event :: (reader.serve left).1, (reader.serve left).2) := by
  rw [serve]
  split
  · rename_i called
    rw [called]
  · rename_i called
    rw [called]
  · rename_i event after left called
    rw [called]
    cases goesOn : event.isLast <;> simp [goesOn]

theorem serve_nil_of_none {reader : Inbound} (missing : reader.next? = none) :
    reader.serve [] = ([], some reader) := by
  rw [serve_eq, call_nil_of_none missing]

theorem serve_dropped_of_none {reader : Inbound} (missing : reader.next? = none)
    (arrivals : List Arrival) : reader.serve (.dropped :: arrivals) = reader.serve arrivals := by
  rw [serve_eq, call_dropped_of_none missing]

theorem serve_ended_of_none {reader : Inbound} (missing : reader.next? = none)
    (arrivals : List Arrival) : reader.serve (.read [] :: arrivals) = ([reader.atEnd], none) := by
  rw [serve_eq, call_ended_of_none missing]
  simp only [isLast_atEnd, ↓reduceIte]

theorem serve_read_of_none {reader : Inbound} (missing : reader.next? = none) (first : UInt8)
    (others : Octets) (arrivals : List Arrival) :
    reader.serve (.read (first :: others) :: arrivals) =
      (reader.feed (first :: others)).serve arrivals := by
  rw [serve_eq, call_read_of_none missing, ← serve_eq]

theorem serve_of_last {reader rest : Inbound} {event : Event}
    (found : reader.next? = some (event, rest)) (last : event.isLast = true)
    (arrivals : List Arrival) : reader.serve arrivals = ([event], none) := by
  rw [serve_eq, call_of_some found]
  simp only [last, ↓reduceIte]

theorem serve_of_next {reader rest : Inbound} {event : Event}
    (found : reader.next? = some (event, rest)) (goesOn : event.isLast = false)
    (arrivals : List Arrival) :
    reader.serve arrivals = (event :: (rest.serve arrivals).1, (rest.serve arrivals).2) := by
  rw [serve_eq, call_of_some found]
  simp only [goesOn, Bool.false_eq_true, ↓reduceIte]

/-- Induction over calls: what the buffer holds comes first, and only then an arrival is used. -/
theorem serve_induction {holds : Inbound → List Arrival → Prop}
    (last : ∀ reader event rest arrivals, reader.next? = some (event, rest) → event.isLast = true →
      holds reader arrivals)
    (next : ∀ reader event rest arrivals, reader.next? = some (event, rest) → event.isLast = false →
      holds rest arrivals → holds reader arrivals)
    (nil : ∀ reader, reader.next? = none → holds reader [])
    (dropped : ∀ reader arrivals, reader.next? = none → holds reader arrivals →
      holds reader (.dropped :: arrivals))
    (ended : ∀ reader arrivals, reader.next? = none → holds reader (.read [] :: arrivals))
    (read : ∀ reader first others arrivals, reader.next? = none →
      holds (reader.feed (first :: others)) arrivals →
      holds reader (.read (first :: others) :: arrivals))
    (reader : Inbound) (arrivals : List Arrival) : holds reader arrivals := by
  -- An event shortens the buffer and leaves the arrivals; only without one is an arrival used up.
  cases found : reader.next? with
  | some step =>
      obtain ⟨event, rest⟩ := step
      cases goesOn : event.isLast with
      | true => exact last reader event rest arrivals found goesOn
      | false =>
          have shorter := length_lt_of_next? found goesOn
          exact next reader event rest arrivals found goesOn
            (serve_induction last next nil dropped ended read rest arrivals)
  | none =>
      match arrivals with
      | [] => exact nil reader found
      | .dropped :: arrivals =>
          exact dropped reader arrivals found
            (serve_induction last next nil dropped ended read reader arrivals)
      | .read [] :: arrivals => exact ended reader arrivals found
      | .read (first :: others) :: arrivals =>
          exact read reader first others arrivals found
            (serve_induction last next nil dropped ended read (reader.feed (first :: others)) arrivals)
termination_by (arrivals.length, reader.buffered.length)

theorem serve_append (reader : Inbound) (arrivals others : List Arrival) :
    reader.serve (arrivals ++ others) =
      match (reader.serve arrivals).2 with
      | none => ((reader.serve arrivals).1, none)
      | some rest => ((reader.serve arrivals).1 ++ (rest.serve others).1, (rest.serve others).2) := by
  induction reader, arrivals using serve_induction with
  | last reader event rest arrivals found last =>
      rw [serve_of_last found last, serve_of_last found last]
  | next reader event rest arrivals found goesOn ih =>
      rw [serve_of_next found goesOn, ih, serve_of_next found goesOn]
      dsimp only
      split <;> rfl
  | nil reader missing =>
      rw [serve_nil_of_none missing]
      rfl
  | dropped reader arrivals missing ih =>
      rw [List.cons_append, serve_dropped_of_none missing, ih, serve_dropped_of_none missing]
  | ended reader arrivals missing =>
      rw [List.cons_append, serve_ended_of_none missing, serve_ended_of_none missing]
  | read reader first others arrivals missing ih =>
      rw [List.cons_append, serve_read_of_none missing, ih, serve_read_of_none missing]

def arrived (arrivals : List Arrival) : Octets :=
  arrivals.flatMap fun arrival =>
    match arrival with
    | .read octets => octets
    | .dropped => []

@[simp] theorem arrived_nil : arrived [] = [] := rfl

@[simp] theorem arrived_read (octets : Octets) (arrivals : List Arrival) :
    arrived (.read octets :: arrivals) = octets ++ arrived arrivals := rfl

@[simp] theorem arrived_dropped (arrivals : List Arrival) :
    arrived (.dropped :: arrivals) = arrived arrivals := rfl

theorem reads_of_serve (reader : Inbound) (arrivals : List Arrival) {rest : Inbound}
    (waiting : (reader.serve arrivals).2 = some rest) :
    Reads reader.policy (reader.buffered ++ arrived arrivals) (reader.serve arrivals).1
      rest.buffered ∧ rest.next? = none := by
  induction reader, arrivals using serve_induction with
  | last reader event middle arrivals found last =>
      rw [serve_of_last found last] at waiting
      cases waiting
  | next reader event middle arrivals found goesOn ih =>
      rw [serve_of_next found goesOn] at waiting ⊢
      obtain ⟨samePolicy, takes⟩ := takes_of_next? found goesOn (arrived arrivals)
      obtain ⟨others, missing⟩ := ih waiting
      rw [samePolicy] at others
      exact ⟨.next takes others, missing⟩
  | nil reader missing =>
      rw [serve_nil_of_none missing] at waiting ⊢
      cases waiting
      rw [arrived_nil, List.append_nil]
      exact ⟨.done _, missing⟩
  | dropped reader arrivals missing ih =>
      rw [serve_dropped_of_none missing] at waiting ⊢
      exact ih waiting
  | ended reader arrivals missing =>
      rw [serve_ended_of_none missing] at waiting
      cases waiting
  | read reader first others arrivals missing ih =>
      rw [serve_read_of_none missing] at waiting ⊢
      rw [arrived_read, ← List.append_assoc]
      exact ih waiting

theorem delivers_of_serve (reader : Inbound) (arrivals : List Arrival)
    (goesOn : .read [] ∉ arrivals) (later : Octets) (ended : (reader.serve arrivals).2 = none) :
    Delivers reader.policy (reader.buffered ++ arrived arrivals ++ later)
      (reader.serve arrivals).1 := by
  rw [List.append_assoc]
  induction reader, arrivals using serve_induction with
  | last reader event middle arrivals found last =>
      rw [serve_of_last found last]
      exact .last (ends_of_next? found last _)
  | next reader event middle arrivals found notLast ih =>
      rw [serve_of_next found notLast] at ended ⊢
      obtain ⟨samePolicy, takes⟩ := takes_of_next? found notLast (arrived arrivals ++ later)
      have others := ih goesOn ended
      rw [samePolicy] at others
      exact .next takes others
  | nil reader missing =>
      rw [serve_nil_of_none missing] at ended
      cases ended
  | dropped reader arrivals missing ih =>
      rw [serve_dropped_of_none missing] at ended ⊢
      exact ih (fun member => goesOn (List.mem_cons_of_mem _ member)) ended
  | ended reader arrivals missing => exact absurd List.mem_cons_self goesOn
  | read reader first others arrivals missing ih =>
      rw [serve_read_of_none missing] at ended ⊢
      rw [arrived_read, List.append_assoc, ← List.append_assoc]
      exact ih (fun member => goesOn (List.mem_cons_of_mem _ member)) ended

/-- What a reader delivers up to the end of a stream is decided by the octets of the stream, in
whatever chunks they arrive and whichever calls are dropped while they wait. Until then what was
delivered and what is buffered are all that has arrived. -/
theorem serve_delivers (policy : TagPolicy) (arrivals : List Arrival) (goesOn : .read [] ∉ arrivals) :
    (∃ events, (∀ later, serve ⟨policy, []⟩ (arrivals ++ .read [] :: later) = (events, none)) ∧
      ∀ others, Delivers policy (arrived arrivals) others ↔ others = events) ∧
    ∀ reader, (serve ⟨policy, []⟩ arrivals).2 = some reader →
      Reads policy (arrived arrivals) (serve ⟨policy, []⟩ arrivals).1 reader.buffered ∧
        Frame.check reader.buffered = .error .incomplete := by
  have reads : ∀ reader, (serve ⟨policy, []⟩ arrivals).2 = some reader →
      Reads policy (arrived arrivals) (serve ⟨policy, []⟩ arrivals).1 reader.buffered ∧
        reader.next? = none := fun reader waiting => reads_of_serve ⟨policy, []⟩ arrivals waiting
  refine ⟨?_, fun reader waiting =>
    ⟨(reads reader waiting).1, check_of_next?_eq_none (reads reader waiting).2⟩⟩
  obtain ⟨events, served, delivers⟩ : ∃ events,
      (∀ later, serve ⟨policy, []⟩ (arrivals ++ .read [] :: later) = (events, none)) ∧
        Delivers policy (arrived arrivals) events := by
    simp only [serve_append]
    cases ended : (serve ⟨policy, []⟩ arrivals).2 with
    | none =>
        have delivers := delivers_of_serve ⟨policy, []⟩ arrivals goesOn [] ended
        rw [List.append_nil] at delivers
        exact ⟨_, fun later => rfl, delivers⟩
    | some reader =>
        obtain ⟨before, missing⟩ := reads reader ended
        simp only [serve_ended_of_none missing]
        exact ⟨_, fun later => rfl, before.delivers (ends_atEnd missing)⟩
  refine ⟨events, served, fun others => ⟨delivers.unique, ?_⟩⟩
  rintro rfl
  exact delivers

/-- An enquiry in three pieces, an unbind with a body that it does not have, and the start of a frame;
two calls are dropped inside the enquiry and one inside the unbind. -/
def sampleArrivals : List Arrival :=
  [.read [0, 0], .dropped, .dropped, .read [0, 16, 0, 0, 0, 21, 0, 0, 0, 0], .read [0, 0, 0, 7, 0, 0],
   .dropped, .read [0, 17, 0, 0, 0, 6, 0, 0, 0, 0, 0, 0, 0, 8, 9, 0, 0]]

theorem serve_delivers_sample :
    .read [] ∉ sampleArrivals ∧
      serve ⟨.strict, []⟩ (sampleArrivals ++ [.read []]) =
        ([.frame ⟨.ok, 7, .enquireLink⟩, .malformed ⟨17, .unbind, .ok, 8⟩ (.lengthMismatch 1 0),
          .cutOff 2], none) := by
  have goesOn : .read [] ∉ sampleArrivals := by decide
  obtain ⟨⟨events, served, delivers⟩, _⟩ := serve_delivers .strict sampleArrivals goesOn
  have expected : Delivers .strict (arrived sampleArrivals)
      [.frame ⟨.ok, 7, .enquireLink⟩, .malformed ⟨17, .unbind, .ok, 8⟩ (.lengthMismatch 1 0),
        .cutOff 2] := by
    refine .next (.frame rfl) (.next (.malformed rfl rfl rfl) ?_)
    exact .last (.cutOff (by decide) rfl)
  exact ⟨goesOn, by rw [served, (delivers _).mp expected]⟩

end Inbound

end Smpp
