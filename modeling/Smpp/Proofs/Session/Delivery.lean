import Smpp.Proofs.Codec.RoundTrip
import Smpp.Proofs.Message.PackedText
import Smpp.Proofs.Session.Lifecycle
import Smpp.Proofs.Session.Reuse

/-!
What a session does with a text: each part of it becomes a submit_sm, which is registered and then written.
The frames say where they go and in which order they belong together, and between them they have the text.
-/

namespace Smpp

namespace Link

theorem writer_write (link : Link) (frame : Frame) :
    (link.write frame).2.writer = (link.writer.write frame).2 ∧ (link.write frame).2.config = link.config := by
  unfold write put
  cases link.writer.write frame with
  | mk outcome writer =>
      cases outcome with
      | ok done => exact ⟨rfl, rfl⟩
      | error error => cases error <;> exact ⟨rfl, rfl⟩

theorem Reaches.config {before after : Link} (reaches : before.Reaches True after) :
    after.config = before.config := by
  induction reaches with
  | refl => rfl
  | act _ act _ ih =>
      rw [← ih]
      cases act with
      | write frame => exact (writer_write _ frame).2
      | _ => rfl

theorem Reaches.settled {before after : Link} (reaches : before.Reaches True after)
    (settled : before.writer.IsSettled) : after.writer.IsSettled := by
  induction reaches with
  | refl => exact settled
  | @act middle _ act _ ih =>
      cases act with
      | write frame =>
          rw [perform, (middle.writer_write frame).1]
          exact ih.write frame
      | closeTransport => exact ih.shutdown
      | _ => exact ih

/-- Requests have been sent with these frames. Each was registered first, under the number that its frame
has, and then the frame was written. -/
inductive Posts : Link → List Frame → Link → Prop
  | nothing (link : Link) : Posts link [] link
  | frame {before written after : Link} {frame : Frame} {others : List Frame}
      (number : frame.sequence = (before.register frame.commandId).1.sequence)
      (writes : (before.register frame.commandId).2.write frame = (.ok (), written))
      (rest : Posts written others after) : Posts before (frame :: others) after

section

variable {before after : Link} {frames : List Frame}

theorem eq_of_posted {commandId : CommandId} {frame : Frame}
    (writes : (before.register commandId).2.write frame = (.ok (), after)) :
    ∃ writer, before.writer.write frame = (.ok (), writer) ∧
      after = { (before.register commandId).2 with writer } := by
  rcases (before.register commandId).2.write_cases frame with
    ⟨writer, written, same⟩ | ⟨error, _, same⟩ | ⟨reason, writer, _, same⟩
  · rw [same] at writes
    cases writes
    exact ⟨writer, written, rfl⟩
  · rw [same] at writes
    cases writes
  · rw [same] at writes
    cases writes

theorem Posts.accepted (posts : before.Posts frames after) (settled : before.writer.IsSettled) :
    (∀ frame ∈ frames, frame.encode.failure = none) ∧
      after.writer.sink.accepted =
        before.writer.sink.accepted ++ frames.flatMap fun frame => frame.encode.octets := by
  induction posts with
  | nothing link => exact ⟨List.forall_mem_nil _, (List.append_nil _).symm⟩
  | @frame before written after frame others number writes rest ih =>
      obtain ⟨writer, wrote, rfl⟩ := eq_of_posted writes
      have took := settled.accepted_of_written wrote
      have still := settled.write frame
      rw [wrote] at still
      obtain ⟨encodable, accepted⟩ := ih still
      refine ⟨List.forall_mem_cons.mpr ⟨(Outbound.received_write wrote).1, encodable⟩, ?_⟩
      rw [accepted, took, List.flatMap_cons, List.append_assoc]

theorem Posts.requests (posts : before.Posts frames after) :
    before.pending.requests ⊆ after.pending.requests ∧
      ∀ frame ∈ frames, after.pending.isOutstanding frame.sequence = true := by
  induction posts with
  | nothing link => exact ⟨List.Subset.refl _, List.forall_mem_nil _⟩
  | @frame before written after frame others number writes rest ih =>
      obtain ⟨writer, _, rfl⟩ := eq_of_posted writes
      obtain ⟨kept, later⟩ := ih
      -- Nothing leaves the table meanwhile.
      refine ⟨fun request member => kept (List.mem_cons_of_mem _ member), ?_⟩
      refine List.forall_mem_cons.mpr ⟨?_, later⟩
      exact PendingTable.isOutstanding_iff.mpr ⟨_, kept List.mem_cons_self, number.symm⟩

theorem Posts.distinct (posts : before.Posts frames after)
    (listed : PendingTable.IsSequence before.pending.next)
    (room : before.pending.size + frames.length ≤ PendingTable.lastSequence.toNat) :
    (frames.map Frame.sequence).Nodup ∧
      ∀ frame ∈ frames, before.pending.isOutstanding frame.sequence = false := by
  induction posts with
  | nothing link => exact ⟨List.nodup_nil, List.forall_mem_nil _⟩
  | @frame before written after frame others number writes rest ih =>
      obtain ⟨writer, _, rfl⟩ := eq_of_posted writes
      have size : (before.register frame.commandId).2.pending.size = before.pending.size + 1 := rfl
      have here : before.pending.requests.length < PendingTable.lastSequence.toNat := by
        rw [List.length_cons] at room
        change before.pending.size < _
        omega
      obtain ⟨_, _, _, _, own⟩ := PendingTable.freeSequence_spec listed here
      obtain ⟨apart, free⟩ := ih (PendingTable.isSequence_following _) (by
        rw [List.length_cons] at room
        dsimp only
        omega)
      -- What is free for the others is free without this request, too, and is not its number.
      have each : ∀ other ∈ others, before.pending.freeSequence ≠ other.sequence ∧
          before.pending.isOutstanding other.sequence = false :=
        fun other member => PendingTable.isOutstanding_register.mp (free other member)
      have same : frame.sequence = before.pending.freeSequence := number
      rw [List.map_cons, List.nodup_cons, List.forall_mem_cons, same]
      refine ⟨⟨?_, apart⟩, own, fun other member => (each other member).2⟩
      intro inside
      obtain ⟨other, member, equal⟩ := List.mem_map.mp inside
      exact (each other member).1 equal.symm

end

def submission (sequence : UInt32) (message : ShortMessage) : Frame := ⟨.ok, sequence, .submitSm message⟩

def submissions (sequences : List UInt32) (messages : List ShortMessage) : List Frame :=
  List.zipWith submission sequences messages

section

variable {sequences : List UInt32} {messages : List ShortMessage}

theorem mem_submissions {frame : Frame} (member : frame ∈ submissions sequences messages) :
    ∃ sequence, ∃ message ∈ messages, frame = submission sequence message := by
  rw [submissions, ← List.map_uncurry_zip_eq_zipWith] at member
  obtain ⟨⟨sequence, message⟩, inside, rfl⟩ := List.mem_map.mp member
  exact ⟨sequence, message, (List.of_mem_zip inside).2, rfl⟩

theorem map_sequence_submissions (counted : sequences.length ≤ messages.length) :
    (submissions sequences messages).map Frame.sequence = sequences := by
  rw [submissions, ← List.map_uncurry_zip_eq_zipWith, List.map_map]
  exact List.map_fst_zip counted

end

theorem posts_of_submitAll {source destination : String} {wantsReceipt : Bool} {segments : List Segment}
    {before after : Link} {sequences : List UInt32}
    (sent : before.submitAll source destination wantsReceipt segments = (.ok sequences, after)) :
    sequences.length = segments.length ∧
      before.Posts (submissions sequences (segments.map fun segment =>
        before.config.message source destination segment wantsReceipt)) after := by
  induction segments generalizing before sequences with
  | nil =>
      cases sent
      exact ⟨rfl, .nothing _⟩
  | cons segment others ih =>
      unfold submitAll submit at sent
      by_cases bound : before.state = .bound
      · rw [if_pos bound] at sent
        rcases before.send_cases (.submitSm (before.config.message source destination segment wantsReceipt)) with
          ⟨writer, wrote, same⟩ | ⟨error, middle, same, _⟩
        · rw [same] at sent
          dsimp only at sent
          split at sent
          · cases sent
          · rename_i rest last submitted
            cases sent
            obtain ⟨counted, posts⟩ := ih submitted
            refine ⟨?_, .frame rfl wrote posts⟩
            rw [List.length_cons, List.length_cons, counted]
        · rw [same] at sent
          cases sent
      · rw [if_neg bound] at sent
        cases sent

end Link

namespace Listener

theorem tail_hear (link : Link) (event : Inbound.Event) : ∃ acted, link.Reaches True acted ∧
    (hear link event).1.writer = acted.writer ∧ (hear link event).1.config = acted.config := by
  cases event with
  | frame frame =>
      refine ⟨link, .refl, ?_⟩
      simp only [hear, onFrame]
      split
      · split <;> exact ⟨rfl, rfl⟩
      · exact ⟨rfl, rfl⟩
  | malformed header error =>
      simp only [hear, onMalformed]
      split
      · exact ⟨link, .refl, rfl, rfl⟩
      · exact ⟨_, reaches_reply link _, rfl, rfl⟩
  | desync error => exact ⟨_, link.reaches_tearDown, rfl, rfl⟩
  | closed => exact ⟨_, link.reaches_tearDown, rfl, rfl⟩
  | cutOff octets => exact ⟨_, link.reaches_tearDown, rfl, rfl⟩

theorem tail_stop (link : Link) : ∃ acted, link.Reaches True acted ∧
    (stop link).1.writer = acted.writer ∧ (stop link).1.config = acted.config := by
  unfold stop
  split
  · exact ⟨_, link.reaches_tearDown, rfl, rfl⟩
  · exact ⟨link, .refl, rfl, rfl⟩

end Listener

structure SessionConfig.Conveys (config : SessionConfig) (source destination text : String)
    (messages : List ShortMessage) : Prop where
  addressed : ∀ message ∈ messages, message.sourceAddress = source ∧
    message.sourceTon = config.sourceTon ∧ message.sourceNpi = config.sourceNpi ∧
    message.destinationAddress = destination ∧
    message.destinationTon = config.destinationTon ∧ message.destinationNpi = config.destinationNpi
  receipts : ∀ message ∈ messages, message.registeredDelivery &&& 1 = 1 ↔ config.deliveryReceipts = true
  flagged : ∀ message ∈ messages, message.esmClass.hasHeader = true ↔ 1 < messages.length
  linked : 1 < messages.length → ∃ reference, ∀ (place : Nat) (inside : place < messages.length),
    ∃ header, ConcatHeader.ofOctets? messages[place].octets = some header ∧ header.reference = reference ∧
      header.total.toNat = messages.length ∧ header.index.toNat = place + 1
  carried : ∃ runs : List (List Char), runs.flatten = text.toList ∧
    List.Forall₂ ShortMessage.Bears messages runs
  reassembled : '@' ∉ text.toList → String.join (messages.map ShortMessage.packedText) = text

theorem isIn_message (config : SessionConfig) (source destination : String) (segment : Segment)
    (wantsReceipt : Bool) : segment.IsIn (config.message source destination segment wantsReceipt) :=
  ⟨ShortMessage.payload_of_bare rfl, rfl, rfl⟩

theorem linked_of_parts {config : SessionConfig} {source destination : String} {segments : List Segment}
    {wantsReceipt : Bool} {reference : UInt8} {total : Nat}
    (parts : ∀ (place : Nat) (inside : place < segments.length),
      Segment.IsPart reference total (place + 1) segments[place]) :
    ∀ (place : Nat) (inside : place < (segments.map fun segment =>
        config.message source destination segment wantsReceipt).length),
      ∃ header, ConcatHeader.ofOctets? (segments.map fun segment =>
          config.message source destination segment wantsReceipt)[place].octets = some header ∧
        header.reference = reference ∧ header.total.toNat = total ∧ header.index.toNat = place + 1 := by
  intro place inside
  have bound : place < segments.length := by rwa [List.length_map] at inside
  obtain ⟨header, _, same, counted, place, starts⟩ := (parts place bound).headed
  refine ⟨header, ?_, same, counted, place⟩
  rw [List.getElem_map]
  exact ConcatHeader.ofOctets?_of_prefix starts

theorem conveys_of_segment {config : SessionConfig} {segmenter : Segmenter} {source destination text : String}
    {cut : SegmentedMessage} (segmented : (segmenter.segment text .auto).1 = .ok cut) :
    config.Conveys source destination text (cut.segments.map fun segment =>
      config.message source destination segment config.deliveryReceipts) := by
  obtain ⟨layout, chosen, laidOut⟩ := Segmenter.chosen_of_segment segmented
  have suits := Segmenter.suits_of_layoutFor chosen
  have cases := Segmenter.segments_cases suits laidOut
  obtain ⟨runs, whole, lay⟩ := Segmenter.layOut_lays laidOut
  rw [← whole] at suits
  have bear : List.Forall₂ ShortMessage.Bears (cut.segments.map fun segment =>
      config.message source destination segment config.deliveryReceipts) runs := by
    refine List.forall₂_map_left_iff.mpr ((Segment.forall₂_suits lay suits).imp ?_)
    rintro segment run ⟨lays, own⟩
    exact lays.bears own (isIn_message ..)
  refine ⟨?_, ?_, ?_, ?_, ⟨runs, whole, bear⟩, fun plain => ?_⟩
  · intro message member
    obtain ⟨segment, _, rfl⟩ := List.mem_map.mp member
    exact ⟨rfl, rfl, rfl, rfl, rfl, rfl⟩
  · intro message member
    obtain ⟨segment, _, rfl⟩ := List.mem_map.mp member
    change (if config.deliveryReceipts = true then (1 : UInt8) else 0) &&& 1 = 1 ↔ _
    cases config.deliveryReceipts with
    | true => decide
    | false => decide
  · intro message member
    obtain ⟨segment, inside, rfl⟩ := List.mem_map.mp member
    rw [List.length_map]
    change segment.esmClass.hasHeader = true ↔ _
    rcases cases with ⟨only, same, plain⟩ | ⟨several, parts⟩
    · rw [same] at inside ⊢
      rw [List.mem_singleton.mp inside, plain]
      exact iff_of_false Bool.false_ne_true (Nat.lt_irrefl 1)
    · obtain ⟨place, bound, rfl⟩ := List.getElem_of_mem inside
      exact iff_of_true (parts place bound).flagged several
  · intro several
    have size := several
    rw [List.length_map] at size
    rcases cases with ⟨only, same, _⟩ | ⟨_, parts⟩
    · rw [same] at size
      cases size
      contradiction
    · refine ⟨segmenter.reference, fun place inside => ?_⟩
      obtain ⟨header, found, reference, total, index⟩ := linked_of_parts parts place inside
      exact ⟨header, found, reference, total.trans (List.length_map _).symm, index⟩
  · rw [← whole] at plain
    rw [ShortMessage.join_packedText bear plain, whole, String.ofList_toList]

namespace Session

variable {config : SessionConfig} {session : Session}

theorem tail_move (session : Session) (move : Move) : ∃ acted, session.link.Reaches True acted ∧
    (session.move move).link.writer = acted.writer ∧ (session.move move).link.config = acted.config := by
  cases move with
  | hear event =>
      simp only [Session.move]
      split
      · exact Listener.tail_hear _ event
      · exact ⟨_, .refl, rfl, rfl⟩
  | stop =>
      simp only [Session.move]
      split
      · exact Listener.tail_stop _
      · exact ⟨_, .refl, rfl, rfl⟩
  | _ => exact ⟨_, session.reaches_move (by simp) (by simp), rfl, rfl⟩

structure IsSound (config : SessionConfig) (session : Session) : Prop where
  config : session.link.config = config
  settled : session.link.writer.IsSettled
  next : PendingTable.IsSequence session.link.pending.next

theorem sound_starting (config : SessionConfig) (handlers : HandlerTable) (sink : Sink) :
    (starting config handlers sink).IsSound config where
  config := rfl
  settled := ⟨sink.accepted, Or.inl ⟨rfl, rfl⟩⟩
  next := by
    have first : PendingTable.IsSequence 1 := ⟨by decide, by decide⟩
    exact first

theorem IsSound.run (sound : session.IsSound config) (moves : List Move) :
    (session.run moves).IsSound config := by
  induction moves generalizing session with
  | nil => exact sound
  | cons move moves ih =>
      obtain ⟨acted, reaches, writer, same⟩ := session.tail_move move
      refine ih ⟨?_, ?_, (session.evolves_move move).isSequence_next sound.next⟩
      · rw [same, reaches.config, sound.config]
      · rw [writer]
        exact reaches.settled sound.settled

theorem start_sendMessage {source destination text : String} {sequences : List UInt32}
    (sent : (session.start (.sendMessage source destination text)).call =
      .returned (.ok (.sent sequences))) :
    ∃ cut, (session.segmenter.segment text .auto).1 = .ok cut ∧
      session.link.submitAll source destination session.link.config.deliveryReceipts cut.segments =
        (.ok sequences, (session.start (.sendMessage source destination text)).link) := by
  by_cases bound : session.link.state = .bound
  · simp only [Session.start, if_pos bound] at sent ⊢
    cases segmented : session.segmenter.segment text .auto with
    | mk outcome segmenter =>
        rw [segmented] at sent
        cases outcome with
        | error error => cases sent
        | ok cut =>
            refine ⟨cut, rfl, ?_⟩
            cases submitted : session.link.submitAll source destination
                session.link.config.deliveryReceipts cut.segments with
            | mk answer link =>
                simp only [submitted, returning] at sent ⊢
                cases answer with
                | error error => cases sent
                | ok found =>
                    cases sent
                    rfl
  · simp only [Session.start, if_neg bound] at sent
    cases sent

theorem start_sendMessage_refused {source destination text : String}
    (refused : session.link.state ≠ .bound ∨ Segmenter.IsTooLong text) :
    ∃ error, session.start (.sendMessage source destination text) = session.returning (.error error) := by
  by_cases bound : session.link.state = .bound
  · rcases refused with unbound | tooLong
    · exact absurd bound unbound
    · obtain ⟨error, same⟩ := Segmenter.segment_of_tooLong session.segmenter tooLong
      simp only [Session.start, if_pos bound, same]
      exact ⟨_, rfl⟩
  · simp only [Session.start, if_neg bound]
    exact ⟨_, rfl⟩

structure Delivers (before after : Link) (source destination text : String) (sequences : List UInt32)
    (messages : List ShortMessage) : Prop where
  counted : messages.length = sequences.length
  posted : before.Posts (Link.submissions sequences messages) after
  written : after.writer.sink.accepted = before.writer.sink.accepted ++
    (Link.submissions sequences messages).flatMap fun frame => frame.encode.octets
  decoded : ∀ policy, Frame.decodeAll policy
      ((Link.submissions sequences messages).flatMap fun frame => frame.encode.octets) =
    ((Link.submissions sequences messages).map fun frame => (frame, frame.encode.octets.length), none)
  outstanding : ∀ sequence ∈ sequences, after.pending.isOutstanding sequence = true
  distinct : before.pending.size + sequences.length ≤ PendingTable.lastSequence.toNat → sequences.Nodup
  conveyed : before.config.Conveys source destination text messages

theorem delivers_of_posts {before after : Link} {source destination text : String} {sequences : List UInt32}
    {messages : List ShortMessage} (counted : messages.length = sequences.length)
    (posts : before.Posts (Link.submissions sequences messages) after)
    (settled : before.writer.IsSettled) (listed : PendingTable.IsSequence before.pending.next)
    (bare : ∀ message ∈ messages, message.parameters = [])
    (conveyed : before.config.Conveys source destination text messages) :
    Delivers before after source destination text sequences messages := by
  have numbers := Link.map_sequence_submissions (Nat.le_of_eq counted.symm)
  obtain ⟨encodable, accepted⟩ := posts.accepted settled
  refine ⟨counted, posts, accepted, fun policy => ?_, ?_, fun room => ?_, conveyed⟩
  · refine Frame.decodeAll_of_each fun frame member rest => ?_
    obtain ⟨sequence, message, inside, same⟩ := Link.mem_submissions member
    have genuine : frame.body.IsGenuine := by
      rw [same]
      trivial
    refine Frame.decode_encoded genuine (fun _ parameter listed => ?_)
      (Frame.encode_of_failure_eq_none (encodable frame member)) rest
    have none : frame.body.parameters = [] := by
      rw [same]
      exact bare message inside
    rw [none] at listed
    cases listed
  · intro sequence member
    rw [← numbers] at member
    obtain ⟨frame, inside, rfl⟩ := List.mem_map.mp member
    exact posts.requests.2 frame inside
  · have length := congrArg List.length numbers
    rw [List.length_map] at length
    have apart := (posts.distinct listed (by omega)).1
    rwa [numbers] at apart

/-- A text that a bound session sends goes out in as many frames as numbers come back, and they deliver it.
A session that is not bound, or a text that is too long, changes nothing. -/
theorem message_delivered (config : SessionConfig) (handlers : HandlerTable) (sink : Sink)
    (moves : List Move) (source destination text : String) :
    let session := (starting config handlers sink).run moves
    let after := session.start (.sendMessage source destination text)
    (∀ sequences, after.call = .returned (.ok (.sent sequences)) → session.link.config = config ∧
      ∃ messages, Delivers session.link after.link source destination text sequences messages) ∧
    (session.link.state ≠ .bound ∨ Segmenter.IsTooLong text →
      ∃ error, after = session.returning (.error error)) := by
  intro session after
  have sound : session.IsSound config := (sound_starting config handlers sink).run moves
  refine ⟨fun sequences sent => ⟨sound.config, ?_⟩, start_sendMessage_refused⟩
  obtain ⟨cut, segmented, submitted⟩ := start_sendMessage sent
  obtain ⟨counted, posts⟩ := Link.posts_of_submitAll submitted
  refine ⟨_, delivers_of_posts ?_ posts sound.settled sound.next ?_ (conveys_of_segment segmented)⟩
  · rw [List.length_map, counted]
  · intro message member
    obtain ⟨segment, _, rfl⟩ := List.mem_map.mp member
    rfl

def sequences? (session : Session) : Option (List UInt32) :=
  match session.call with
  | .returned (.ok (.sent sequences)) => some sequences
  | _ => none

theorem call_of_sequences? {sequences : List UInt32} (sent : session.sequences? = some sequences) :
    session.call = .returned (.ok (.sent sequences)) := by
  unfold sequences? at sent
  split at sent
  · rename_i call
    cases sent
    exact call
  · cases sent

def readyMoves : List Move :=
  [.start (.bind { systemId := "esme", password := "secret" }),
   .hear (.frame ⟨.ok, 1, .bindTransceiverResp {}⟩), .handled (.returned .ok), .resume]

def longText : String := String.ofList (List.replicate 71 'ж')

theorem message_delivered_sample :
    let session := (starting {} .standard {}).run readyMoves
    let after := session.start (.sendMessage "Sender" "447700900123" longText)
    after.call = .returned (.ok (.sent [2, 3])) ∧
      (∃ messages, Delivers session.link after.link "Sender" "447700900123" longText [2, 3] messages) ∧
      ∃ error, (starting {} .standard {}).start (.sendMessage "Sender" "447700900123" longText) =
        (starting {} .standard {}).returning (.error error) := by
  intro session after
  have sent : after.sequences? = some [2, 3] := by decide +kernel
  have unbound : (starting {} .standard {}).link.state ≠ .bound := by decide
  exact ⟨call_of_sequences? sent,
    ((message_delivered {} .standard {} readyMoves _ _ _).1 _ (call_of_sequences? sent)).2,
    (message_delivered {} .standard {} [] _ _ _).2 (Or.inl unbound)⟩

/-- Seven septets leave seven bits of their last octet, which an eighth septet takes up. When that is the
zero of an at sign, nobody can tell the frames of the two texts apart. -/
theorem trailing_sign_lost :
    let session := (starting {} .standard {}).run readyMoves
    let first := session.start (.sendMessage "Sender" "447700900123" "abcdefg@")
    let second := session.start (.sendMessage "Sender" "447700900123" "abcdefg")
    session.link.state = .bound ∧ first.call = .returned (.ok (.sent [2])) ∧
      second.call = .returned (.ok (.sent [2])) ∧
      ¬ ∃ reassemble : Octets → String,
        reassemble first.link.writer.sink.accepted = "abcdefg@" ∧
          reassemble second.link.writer.sink.accepted = "abcdefg" := by
  intro session first second
  have firstSent : first.sequences? = some [2] := by decide +kernel
  have secondSent : second.sequences? = some [2] := by decide +kernel
  have same : first.link.writer.sink.accepted = second.link.writer.sink.accepted := by decide +kernel
  refine ⟨by decide +kernel, call_of_sequences? firstSent, call_of_sequences? secondSent, ?_⟩
  rintro ⟨reassemble, whole, shorter⟩
  rw [same, shorter] at whole
  exact absurd whole (by decide)

end Session

end Smpp
