import Smpp.Proofs.Codec.Fields

/-!
The fields of variable length at their bounds. A text is read exactly where it could have been written, and
then it is read whole; its null octet counts among the octets that it may take. Parameters are read from
exactly the octets that write them, which cut into parameters in one way only; whatever else is there ends the
reading at the first parameter that is cut short.
-/

namespace Smpp

namespace Utf8

theorem encode_eq_flatMap (text : String) : encode text = text.toList.flatMap String.utf8EncodeChar := by
  rw [encode, ← String.utf8Encode_toList, List.utf8Encode, List.toList_data_toByteArray]

theorem null_mem_encodeChar_iff {character : Char} :
    0 ∈ String.utf8EncodeChar character ↔ character = '\x00' := by
  have code : character = '\x00' ↔ character.val.toNat = 0 := by
    rw [Char.ext_iff, ← UInt32.toNat_inj]
    rfl
  have octet (value : Nat) : 0 = UInt8.ofNat value ↔ value % 256 = 0 := by
    rw [← UInt8.toNat_inj, UInt8.toNat_ofNat', eq_comm]
    rfl
  rw [code, String.utf8EncodeChar]
  -- All octets of a longer character have their high bit set.
  repeat' split
  all_goals
    simp only [List.mem_cons, List.not_mem_nil, or_false, octet]
    omega

theorem null_mem_encode_iff {text : String} : 0 ∈ encode text ↔ '\x00' ∈ text.toList := by
  rw [encode_eq_flatMap, List.mem_flatMap]
  constructor
  · rintro ⟨character, member, null⟩
    rw [null_mem_encodeChar_iff] at null
    rwa [null] at member
  · intro member
    exact ⟨_, member, null_mem_encodeChar_iff.mpr rfl⟩

end Utf8

namespace Parameter

def wire (parameter : Parameter) : Octets :=
  Octets.ofWord16 parameter.tag ++ Octets.ofWord16 (UInt16.ofNat parameter.value.length) ++ parameter.value

theorem length_wire (parameter : Parameter) : parameter.wire.length = parameter.encodedSize := by
  simp only [wire, encodedSize, List.length_append, Octets.length_ofWord16]

theorem wire_append_ne_nil (parameter : Parameter) (rest : Octets) : parameter.wire ++ rest ≠ [] := by
  simp [wire, Octets.ofWord16]

end Parameter

namespace Decoder

/-- A text has no null character, and leaves room for the null octet that ends it. -/
def IsWithin (largest : Nat) (value : String) : Prop :=
  '\x00' ∉ value.toList ∧ (Utf8.encode value).length ≤ largest - 1

theorem text_eq_ok_iff_isWithin {value field : String} {largest : Nat} {written : Octets}
    (room : 0 < largest) :
    Field.text value largest field = .ok written ↔
      IsWithin largest value ∧ written = Utf8.encode value ++ [0] := by
  rw [text_eq_ok_iff, IsWithin, Utf8.null_mem_encode_iff, ← Nat.lt_iff_le_pred room]
  constructor
  · rintro ⟨short, free, whole⟩
    exact ⟨⟨free, short⟩, whole⟩
  · rintro ⟨⟨free, short⟩, whole⟩
    exact ⟨short, free, whole⟩

/-- A text is read in front of any octets if and only if it can be written, and from what it is written with. -/
structure TextInverts (largest : Nat) (field : String) : Prop where
  reads : ∀ octets value left, decode (text largest field) octets = (.ok value, left) ↔
    ∃ written, Field.text value largest field = .ok written ∧ octets = written ++ left
  writes : ∀ value written, Field.text value largest field = .ok written ↔
    IsWithin largest value ∧ written = Utf8.encode value ++ [0]
  gives : ∀ octets value left, decode (text largest field) octets = (.ok value, left) → IsWithin largest value

theorem textInverts {largest : Nat} (room : 0 < largest) (field : String) : TextInverts largest field where
  reads := text_mirrors largest field
  writes _ _ := text_eq_ok_iff_isWithin room
  gives octets value left read := by
    obtain ⟨written, wrote, _⟩ := (text_mirrors largest field octets value left).mp read
    exact ((text_eq_ok_iff_isWithin room).mp wrote).1

/-- A null octet behind as many octets as there may be comes too late. -/
example : decode (text 2 "service_type") [0x41, 0x42, 0] =
    (.error (.missingTerminator "service_type" 2), [0x41, 0x42, 0]) := rfl

inductive OnWire : List Parameter → Octets → Prop
  | nil : OnWire [] []
  | cons {parameter : Parameter} {others : List Parameter} {rest : Octets}
      (short : parameter.value.length ≤ 65535) (behind : OnWire others rest) :
      OnWire (parameter :: others) (parameter.wire ++ rest)

theorem decode_parameter_wire {parameter : Parameter} (short : parameter.value.length ≤ 65535) (rest : Octets) :
    decode Decoder.parameter (parameter.wire ++ rest) = (.ok parameter, rest) :=
  (parameter_mirrors _ _ _).mpr ⟨parameter.wire, parameter_eq_ok_iff.mpr ⟨short, rfl⟩, rfl⟩

theorem onWire_iff {parameters : List Parameter} {octets : Octets} :
    OnWire parameters octets ↔ Encoding.ofFields (parameters.map Field.parameter) = ⟨octets, none⟩ := by
  induction parameters generalizing octets with
  | nil =>
      rw [List.map_nil, Encoding.ofFields_nil, Encoding.mk.injEq]
      constructor
      · rintro ⟨⟩
        exact ⟨rfl, rfl⟩
      · rintro ⟨rfl, _⟩
        exact .nil
  | cons parameter others ih =>
      rw [List.map_cons, Encoding.ofFields_cons_eq_iff]
      constructor
      · intro wire
        cases wire with
        | cons short behind =>
            exact ⟨_, _, parameter_eq_ok_iff.mpr ⟨short, rfl⟩, ih.mp behind, rfl⟩
      · rintro ⟨_, rest, wrote, behind, rfl⟩
        obtain ⟨short, rfl⟩ := parameter_eq_ok_iff.mp wrote
        exact .cons short (ih.mpr behind)

theorem decode_parameters_eq_ok_iff {octets left : Octets} {found : List Parameter} :
    decode parameters octets = (.ok found, left) ↔ left = [] ∧ OnWire found octets := by
  rw [parameters_eq_ok_iff, onWire_iff]

theorem OnWire.unique {found others : List Parameter} {octets : Octets} (wire : OnWire found octets)
    (again : OnWire others octets) : others = found := by
  have first := decode_parameters_eq_ok_iff.mpr ⟨rfl, wire⟩
  have second := decode_parameters_eq_ok_iff.mpr ⟨rfl, again⟩
  cases first.symm.trans second
  rfl

theorem exists_onWire_iff {parameters : List Parameter} :
    (∃ octets, OnWire parameters octets) ↔ ∀ parameter ∈ parameters, parameter.value.length ≤ 65535 := by
  constructor
  · rintro ⟨octets, wire⟩
    induction wire with
    | nil => simp
    | cons short behind ih => exact List.forall_mem_cons.mpr ⟨short, ih⟩
  · intro short
    induction parameters with
    | nil => exact ⟨[], .nil⟩
    | cons parameter others ih =>
        obtain ⟨first, behind⟩ := List.forall_mem_cons.mp short
        obtain ⟨rest, wire⟩ := ih behind
        exact ⟨_, .cons first wire⟩

/-- Fewer octets than the next parameter needs, with what is said about it and the octets that are left: too few
for its tag and its length, or for the value that it declares. -/
inductive CutsShort : Octets → String → Octets → Prop
  | header {octets : Octets} (more : octets ≠ []) (short : octets.length < 4) :
      CutsShort octets s!"{octets.length} trailing bytes cannot hold a TLV header" octets
  | value {tag length : UInt16} {rest : Octets} (short : rest.length < length.toNat) :
      CutsShort (Octets.ofWord16 tag ++ Octets.ofWord16 length ++ rest)
        s!"TLV 0x{Numeral.hexadecimal 4 tag.toNat} declares {length.toNat} bytes, only {rest.length} remain" rest

theorem CutsShort.ne_nil {octets left : Octets} {reason : String} (cut : CutsShort octets reason left) :
    octets ≠ [] := by
  cases cut with
  | header more _ => exact more
  | value _ => simp [Octets.ofWord16]

theorem decode_parameter_of_short {octets : Octets} (short : octets.length < 4) :
    decode parameter octets =
      (.error (.malformedParameter s!"{octets.length} trailing bytes cannot hold a TLV header"), octets) := by
  match octets with
  | [] | [_] | [_, _] | [_, _, _] => rfl

theorem decode_parameter_of_words (tag length : UInt16) (rest : Octets) :
    decode parameter (Octets.ofWord16 tag ++ Octets.ofWord16 length ++ rest) =
      if rest.length < length.toNat then
        (.error (.malformedParameter
          s!"TLV 0x{Numeral.hexadecimal 4 tag.toNat} declares {length.toNat} bytes, only {rest.length} remain"),
          rest)
      else (.ok ⟨tag, rest.take length.toNat⟩, rest.drop length.toNat) := by
  have short : (rest.take length.toNat).length < length.toNat ↔ rest.length < length.toNat := by
    rw [List.length_take]
    omega
  simp only [decode, ExceptT.run, Octets.ofWord16, List.cons_append, List.nil_append, parameter,
    Octets.toWord16_ofNat, short]

theorem exists_words {octets : Octets} (long : 4 ≤ octets.length) :
    ∃ tag length rest, octets = Octets.ofWord16 tag ++ Octets.ofWord16 length ++ rest := by
  match octets with
  | tagHigh :: tagLow :: lengthHigh :: lengthLow :: rest =>
      refine ⟨Octets.toWord16 tagHigh tagLow, Octets.toWord16 lengthHigh lengthLow, rest, ?_⟩
      rw [Octets.ofWord16_toWord16, Octets.ofWord16_toWord16]
      rfl

theorem decode_parameter_eq_error_iff {octets left : Octets} {error : CodecError} (more : octets ≠ []) :
    decode parameter octets = (.error error, left) ↔
      ∃ reason, error = .malformedParameter reason ∧ CutsShort octets reason left := by
  constructor
  · intro refused
    by_cases short : octets.length < 4
    · rw [decode_parameter_of_short short] at refused
      cases refused
      exact ⟨_, rfl, .header more short⟩
    · obtain ⟨tag, length, rest, rfl⟩ := exists_words (Nat.le_of_not_lt short)
      rw [decode_parameter_of_words] at refused
      split at refused
      · rename_i cut
        cases refused
        exact ⟨_, rfl, .value cut⟩
      · cases refused
  · rintro ⟨reason, rfl, cut⟩
    cases cut with
    | header _ short => exact decode_parameter_of_short short
    | value short => rw [decode_parameter_of_words, if_pos short]

/-- A place behind whole parameters, told by the octets that are left there. -/
def IsBoundary (octets left : Octets) : Prop :=
  ∃ found written, OnWire found written ∧ octets = written ++ left

theorem decode_parameters_append {found : List Parameter} {written : Octets} (wire : OnWire found written)
    (rest : Octets) :
    decode parameters (written ++ rest) =
      ((decode parameters rest).1.map (found ++ ·), (decode parameters rest).2) := by
  induction wire with
  | nil =>
      rw [List.nil_append]
      rcases decode parameters rest with ⟨error | others, left⟩ <;> rfl
  | cons short behind ih =>
      rw [List.append_assoc, decode_parameters_of_ne_nil (Parameter.wire_append_ne_nil _ _),
        decode_parameter_wire short]
      simp only [ih]
      rcases decode parameters rest with ⟨error | others, left⟩ <;> rfl

theorem decode_parameters_of_cutsShort {octets left : Octets} {reason : String}
    (cut : CutsShort octets reason left) :
    decode parameters octets = (.error (.malformedParameter reason), left) := by
  rw [decode_parameters_of_ne_nil cut.ne_nil, (decode_parameter_eq_error_iff cut.ne_nil).mpr ⟨reason, rfl, cut⟩]

theorem exists_boundary (octets : Octets) :
    ∃ found written left, OnWire found written ∧ octets = written ++ left ∧
      (left = [] ∨ ∃ reason behind, CutsShort left reason behind) := by
  induction size : octets.length using Nat.strongRecOn generalizing octets with
  | ind size ih =>
      by_cases done : octets = []
      · exact ⟨[], [], [], .nil, done, Or.inl rfl⟩
      · rcases read : decode parameter octets with ⟨error | first, middle⟩
        · obtain ⟨reason, _, cut⟩ := (decode_parameter_eq_error_iff done).mp read
          exact ⟨[], [], octets, .nil, rfl, Or.inr ⟨reason, middle, cut⟩⟩
        · -- What is read was written, and fewer octets are left behind it.
          have shorter := length_lt_of_parameter read
          obtain ⟨piece, wrote, rfl⟩ := (parameter_mirrors _ _ _).mp read
          obtain ⟨short, rfl⟩ := parameter_eq_ok_iff.mp wrote
          obtain ⟨others, written, left, wire, rfl, stop⟩ := ih middle.length (by omega) middle rfl
          exact ⟨first :: others, _, left, .cons short wire, (List.append_assoc ..).symm, stop⟩

theorem decode_parameters_eq_error_iff {octets left : Octets} {error : CodecError} :
    decode parameters octets = (.error error, left) ↔
      ∃ boundary reason, IsBoundary octets boundary ∧ CutsShort boundary reason left ∧
        error = .malformedParameter reason := by
  constructor
  · intro failed
    obtain ⟨found, written, boundary, wire, rfl, stop⟩ := exists_boundary octets
    rw [decode_parameters_append wire] at failed
    rcases stop with rfl | ⟨reason, behind, cut⟩
    · -- Whole parameters up to the end are read.
      rw [decode_parameters_nil] at failed
      cases failed
    · rw [decode_parameters_of_cutsShort cut] at failed
      cases failed
      exact ⟨boundary, reason, ⟨found, written, wire, rfl⟩, cut, rfl⟩
  · rintro ⟨boundary, reason, ⟨found, written, wire, rfl⟩, cut, rfl⟩
    rw [decode_parameters_append wire, decode_parameters_of_cutsShort cut]
    rfl

/-- The reading of parameters as the loop that it is, with those that were read so far in front: how many
more it reads, what it gives and what it leaves. It looks for a parameter as long as octets are left. -/
inductive Loops : List Parameter → Octets → Nat → Except CodecError (List Parameter) → Octets → Prop
  | ended (soFar : List Parameter) : Loops soFar [] 0 (.ok soFar) []
  | failed {soFar : List Parameter} {octets left : Octets} {error : CodecError} (more : octets ≠ [])
      (refused : decode parameter octets = (.error error, left)) : Loops soFar octets 0 (.error error) left
  | turned {soFar : List Parameter} {octets middle left : Octets} {next : Parameter} {turns : Nat}
      {result : Except CodecError (List Parameter)} (more : octets ≠ [])
      (read : decode parameter octets = (.ok next, middle))
      (others : Loops (soFar ++ [next]) middle turns result left) : Loops soFar octets (turns + 1) result left

theorem Loops.unique {soFar : List Parameter} {octets left otherLeft : Octets} {turns otherTurns : Nat}
    {result otherResult : Except CodecError (List Parameter)} (loops : Loops soFar octets turns result left)
    (other : Loops soFar octets otherTurns otherResult otherLeft) :
    otherTurns = turns ∧ otherResult = result ∧ otherLeft = left := by
  -- Whether octets are left, and what is read from them, leaves one way to go on.
  induction loops generalizing otherTurns with
  | ended soFar =>
      cases other with
      | ended _ => exact ⟨rfl, rfl, rfl⟩
      | failed more _ => exact absurd rfl more
      | turned more _ _ => exact absurd rfl more
  | failed more refused =>
      cases other with
      | ended _ => exact absurd rfl more
      | failed _ again =>
          cases refused.symm.trans again
          exact ⟨rfl, rfl, rfl⟩
      | turned _ read _ => cases refused.symm.trans read
  | turned more read _ ih =>
      cases other with
      | ended _ => exact absurd rfl more
      | failed _ refused => cases read.symm.trans refused
      | turned _ again others =>
          cases read.symm.trans again
          obtain ⟨rfl, rfl, rfl⟩ := ih others
          exact ⟨rfl, rfl, rfl⟩

theorem OnWire.loops {found soFar : List Parameter} {written rest left : Octets} {turns : Nat}
    {result : Except CodecError (List Parameter)} (wire : OnWire found written)
    (behind : Loops (soFar ++ found) rest turns result left) :
    Loops soFar (written ++ rest) (turns + found.length) result left := by
  induction wire generalizing soFar with
  | nil =>
      rw [List.append_nil] at behind
      exact behind
  | cons short _ ih =>
      rw [List.append_assoc]
      refine .turned (Parameter.wire_append_ne_nil _ _) (decode_parameter_wire short _) (ih ?_)
      rw [List.append_assoc]
      exact behind

theorem OnWire.length_le {found : List Parameter} {written : Octets} (wire : OnWire found written) :
    4 * found.length ≤ written.length := by
  induction wire with
  | nil => simp
  | cons short behind ih =>
      simp only [List.length_append, List.length_cons, Parameter.length_wire, Parameter.encodedSize]
      omega

theorem exists_loops (octets : Octets) :
    ∃ turns, 4 * turns ≤ octets.length ∧
      Loops [] octets turns (decode parameters octets).1 (decode parameters octets).2 := by
  obtain ⟨found, written, left, wire, rfl, stop⟩ := exists_boundary octets
  have bound := wire.length_le
  rw [decode_parameters_append wire]
  refine ⟨0 + found.length, ?_, wire.loops ?_⟩
  · rw [List.length_append]
    omega
  · rcases stop with rfl | ⟨reason, behind, cut⟩
    · rw [decode_parameters_nil, List.nil_append]
      simp only [Except.map, List.append_nil]
      exact .ended found
    · rw [decode_parameters_of_cutsShort cut]
      exact .failed cut.ne_nil ((decode_parameter_eq_error_iff cut.ne_nil).mpr ⟨reason, rfl, cut⟩)

/-- What the reading of parameters does with octets: it gives parameters if and only if the octets are these
parameters on the wire, and it fails if and only if one is cut short at some boundary. -/
structure ParametersInvert (octets : Octets) : Prop where
  reads : ∀ found left, decode parameters octets = (.ok found, left) ↔ left = [] ∧ OnWire found octets
  unique : ∀ found others, OnWire found octets → OnWire others octets → others = found
  writes : ∀ found, OnWire found octets ↔ Encoding.ofFields (found.map Field.parameter) = ⟨octets, none⟩
  ends : ∃ turns, 4 * turns ≤ octets.length ∧ ∀ others result left,
    Loops [] octets others result left ↔ others = turns ∧ (result, left) = decode parameters octets
  fails : ∀ error left, decode parameters octets = (.error error, left) ↔
    ∃ boundary reason, IsBoundary octets boundary ∧ CutsShort boundary reason left ∧
      error = .malformedParameter reason

theorem parametersInvert (octets : Octets) : ParametersInvert octets where
  reads _ _ := decode_parameters_eq_ok_iff
  unique _ _ wire again := wire.unique again
  writes _ := onWire_iff
  ends := by
    obtain ⟨turns, bound, loops⟩ := exists_loops octets
    refine ⟨turns, bound, fun others result left => ⟨fun other => ?_, ?_⟩⟩
    · obtain ⟨same, rfl, rfl⟩ := loops.unique other
      exact ⟨same, rfl⟩
    · rintro ⟨rfl, same⟩
      rw [← same] at loops
      exact loops
  fails _ _ := decode_parameters_eq_error_iff

/-- The fields of variable length are read from exactly what writes them: a text within its bound, and
parameters up to the end of the octets. All texts and all parameters that can be written arise in this way. -/
theorem fields_invert {largest : Nat} (room : 0 < largest) (field : String) (octets : Octets)
    (found : List Parameter) :
    TextInverts largest field ∧ ParametersInvert octets ∧
      ((∃ written, decode parameters written = (.ok found, [])) ↔
        ∀ parameter ∈ found, parameter.value.length ≤ 65535) := by
  refine ⟨textInverts room field, parametersInvert octets, ?_⟩
  rw [← exists_onWire_iff]
  simp only [decode_parameters_eq_ok_iff, true_and]

theorem fields_invert_sample :
    0 < 3 ∧ decode (text 3 "service_type") [0xC3, 0xA9, 0, 7] = (.ok "é", [7]) ∧
      decode parameters [0x14, 0, 0, 1, 0xAB, 0, 0x1E, 0, 2, 0x41] =
        (.error (.malformedParameter "TLV 0x001e declares 2 bytes, only 1 remain"), [0x41]) ∧
      ∃ written, decode parameters written = (.ok [⟨0x1400, [0xAB]⟩, ⟨0x001E, []⟩], []) := by
  have room : 0 < 3 := by decide
  obtain ⟨inverts, cut, arises⟩ := fields_invert room "service_type"
    [0x14, 0, 0, 1, 0xAB, 0, 0x1E, 0, 2, 0x41] [⟨0x1400, [0xAB]⟩, ⟨0x001E, []⟩]
  have written : Field.text "é" 3 "service_type" = .ok [0xC3, 0xA9, 0] := rfl
  have first : OnWire [⟨0x1400, [0xAB]⟩] [0x14, 0, 0, 1, 0xAB] := .cons (by decide) .nil
  have second : CutsShort [0, 0x1E, 0, 2, 0x41] "TLV 0x001e declares 2 bytes, only 1 remain" [0x41] :=
    @CutsShort.value 0x001E 2 [0x41] (by decide)
  refine ⟨room, (inverts.reads _ _ _).mpr ⟨_, written, rfl⟩, ?_, arises.mpr (by decide)⟩
  exact (cut.fails _ _).mpr ⟨_, _, ⟨_, _, first, rfl⟩, second, rfl⟩

end Decoder

end Smpp
