import Smpp.Codec.Decode

/-!
The reading half of a connection. Octets are kept until they make a whole frame; what the frames are
does not depend on how the octets arrive, and a bad body does not disturb the frames behind it.
-/

namespace Smpp

structure Inbound where
  policy : TagPolicy
  buffered : Octets := []
  deriving DecidableEq, Repr

namespace Inbound

inductive Event
  | frame (frame : Frame)
  | malformed (header : Header) (error : CodecError)
  | desync (error : CodecError)
  | closed
  | cutOff (octets : Nat)
  deriving DecidableEq, Repr

def Event.message : Event → String
  | malformed header error =>
      s!"malformed {header.commandId.name} (sequence {header.sequence}): {error.message}"
  | desync error => s!"stream desynchronized: {error.message}"
  | cutOff octets =>
      s!"I/O error: connection reset by peer with {octets} bytes of a partial frame"
  | frame _ | closed => ""

def feed (reader : Inbound) (chunk : Octets) : Inbound :=
  { reader with buffered := reader.buffered ++ chunk }

def Event.ofFrame (policy : TagPolicy) (octets : Octets) : Event :=
  match (Header.decoder.decode octets).1 with
  | .error error => .desync error
  | .ok header =>
      match ((Frame.bodyDecoder policy header).decode (octets.drop Header.size)).1 with
      | .ok decoded => .frame decoded
      | .error error => .malformed header error

/-- What comes next in the octets that are there, if they tell. A whole frame leaves the buffer
whether it can be decoded or not. -/
def next? (reader : Inbound) : Option (Event × Inbound) :=
  match Frame.check reader.buffered with
  | .ok length =>
      some (Event.ofFrame reader.policy (reader.buffered.take length),
        { reader with buffered := reader.buffered.drop length })
  | .error .incomplete => none
  | .error error => some (.desync error, reader)

def atEnd (reader : Inbound) : Event :=
  match reader.buffered with
  | [] => .closed
  | octets => .cutOff octets.length

def Event.isLast : Event → Bool
  | desync _ | closed | cutOff _ => true
  | frame _ | malformed .. => false

theorem length_lt_of_next? {reader rest : Inbound} {event : Event}
    (found : reader.next? = some (event, rest)) (goesOn : event.isLast = false) :
    rest.buffered.length < reader.buffered.length := by
  unfold next? at found
  split at found
  · rename_i length checked
    cases found
    have bounds := Frame.check_bounds checked
    unfold Header.size at bounds
    simp only [List.length_drop]
    omega
  · cases found
  · cases found
    cases goesOn

/-! Calls for the next event. A call that finds none waits for the transport, where its caller may
drop it; whoever is interested then calls again. -/

/-- What a call meets while it waits: octets, of which there are none at the end of the stream, or
that it is dropped. -/
inductive Arrival
  | read (octets : Octets)
  | dropped
  deriving DecidableEq, Repr

inductive CallEnd
  | returned (event : Event)
  | dropped
  | waiting
  deriving DecidableEq, Repr

/-- A call for the next event. What it has not used of the arrivals comes back. -/
def call (reader : Inbound) : List Arrival → CallEnd × Inbound × List Arrival
  | [] =>
      match reader.next? with
      | some (event, reader) => (.returned event, reader, [])
      | none => (.waiting, reader, [])
  | arrival :: arrivals =>
      match reader.next? with
      | some (event, reader) => (.returned event, reader, arrival :: arrivals)
      | none =>
          match arrival with
          | .dropped => (.dropped, reader, arrivals)
          | .read [] => (.returned reader.atEnd, reader, arrivals)
          | .read octets => (reader.feed octets).call arrivals

section

variable {reader rest : Inbound} {event : Event}

theorem call_of_some (found : reader.next? = some (event, rest)) (arrivals : List Arrival) :
    reader.call arrivals = (.returned event, rest, arrivals) := by
  cases arrivals <;> simp only [call, found]

theorem call_nil_of_none (missing : reader.next? = none) :
    reader.call [] = (.waiting, reader, []) := by
  simp only [call, missing]

theorem call_dropped_of_none (missing : reader.next? = none) (arrivals : List Arrival) :
    reader.call (.dropped :: arrivals) = (.dropped, reader, arrivals) := by
  simp only [call, missing]

theorem call_ended_of_none (missing : reader.next? = none) (arrivals : List Arrival) :
    reader.call (.read [] :: arrivals) = (.returned reader.atEnd, reader, arrivals) := by
  simp only [call, missing]

theorem call_read_of_none (missing : reader.next? = none) (first : UInt8) (others : Octets)
    (arrivals : List Arrival) :
    reader.call (.read (first :: others) :: arrivals) =
      (reader.feed (first :: others)).call arrivals := by
  simp only [call, missing]

end

theorem shorter_of_call {reader rest : Inbound} {arrivals left : List Arrival} {ending : CallEnd}
    (called : reader.call arrivals = (ending, rest, left)) (ended : ending ≠ .waiting) :
    left.length < arrivals.length ∨
      ∃ event, ending = .returned event ∧ reader.next? = some (event, rest) ∧ left = arrivals := by
  induction arrivals generalizing reader with
  | nil =>
      cases found : reader.next? with
      | none =>
          rw [call_nil_of_none found] at called
          cases called
          exact absurd rfl ended
      | some step =>
          rw [call_of_some found] at called
          cases called
          exact Or.inr ⟨_, rfl, rfl, rfl⟩
  | cons arrival arrivals ih =>
      cases found : reader.next? with
      | some step =>
          rw [call_of_some found] at called
          cases called
          exact Or.inr ⟨_, rfl, rfl, rfl⟩
      | none =>
          refine Or.inl ?_
          match arrival with
          | .dropped =>
              rw [call_dropped_of_none found] at called
              cases called
              simp
          | .read [] =>
              rw [call_ended_of_none found] at called
              cases called
              simp
          | .read (first :: others) =>
              rw [call_read_of_none found] at called
              rcases ih called with fewer | ⟨_, _, _, rfl⟩
              · simp only [List.length_cons]
                omega
              · simp

/-- Call after call, also after one that was dropped: the events that they return, up to one that ends
the stream, and the reader that waits for more if there is none. -/
def serve (reader : Inbound) (arrivals : List Arrival) : List Event × Option Inbound :=
  match _step : reader.call arrivals with
  | (.waiting, reader, _) => ([], some reader)
  | (.dropped, reader, left) => reader.serve left
  | (.returned event, reader, left) =>
      if _goesOn : event.isLast = false then
        let (events, rest) := reader.serve left
        (event :: events, rest)
      else ([event], none)
termination_by (arrivals.length, reader.buffered.length)
decreasing_by
  · rcases shorter_of_call _step (by simp) with fewer | ⟨_, impossible, _⟩
    · exact Prod.Lex.left _ _ fewer
    · cases impossible
  · rcases shorter_of_call _step (by simp) with fewer | ⟨_, same, found, rfl⟩
    · exact Prod.Lex.left _ _ fewer
    · cases same
      exact Prod.Lex.right _ (length_lt_of_next? found _goesOn)

def drain (reader : Inbound) : List Event × Option Inbound := reader.serve []

/-- Every event of a stream that arrives in chunks and then ends. A chunk without octets is none. -/
def events (reader : Inbound) (chunks : List Octets) : List Event :=
  (reader.serve ((chunks.filter fun chunk => !chunk.isEmpty).map .read ++ [.read []])).1

end Inbound

end Smpp
