import Smpp.Codec.Decoder
import Smpp.Codec.Encoding

/-!
Field decoders and field encodings as exact inverses. A decoder accepts exactly the octets that its
value is written with, and leaves what follows them. Decoders one after the other, up to the end of
the octets, then accept exactly what the fields of the value write one after the other.
-/

namespace Smpp

namespace Encoding

@[simp] theorem ofFields_nil : ofFields [] = ⟨[], none⟩ := rfl

theorem ofFields_cons_eq_iff {field : Except CodecError Octets}
    {fields : List (Except CodecError Octets)} {octets : Octets} :
    ofFields (field :: fields) = ⟨octets, none⟩ ↔
      ∃ first others, field = .ok first ∧ ofFields fields = ⟨others, none⟩ ∧
        octets = first ++ others := by
  cases field with
  | error error => simp [ofFields]
  | ok first =>
      constructor
      · intro written
        simp only [ofFields, Encoding.mk.injEq] at written
        obtain ⟨whole, complete⟩ := written
        refine ⟨first, (ofFields fields).octets, rfl, ?_, whole.symm⟩
        rw [← complete]
      · rintro ⟨start, others, same, tail, rfl⟩
        cases same
        simp [ofFields, tail]

end Encoding

namespace Decoder

@[simp] theorem decode_pure {Value : Type} (value : Value) (octets : Octets) :
    decode (pure value) octets = (.ok value, octets) := rfl

@[simp] theorem decode_get (octets : Octets) : decode get octets = (.ok octets, octets) := rfl

theorem decode_bind {First Value : Type} (first : Decoder First) (next : First → Decoder Value)
    (octets : Octets) :
    decode (first >>= next) octets =
      match decode first octets with
      | (.ok found, middle) => decode (next found) middle
      | (.error error, middle) => (.error error, middle) := by
  change (match first octets with
    | (result, middle) => ExceptT.bindCont next result middle) = _
  unfold decode ExceptT.run
  cases first octets with
  | mk result middle => cases result <;> rfl

theorem decode_bind_of_ok {First Value : Type} {first : Decoder First} {next : First → Decoder Value}
    {octets middle : Octets} {found : First} (read : decode first octets = (.ok found, middle)) :
    decode (first >>= next) octets = decode (next found) middle := by
  rw [decode_bind, read]

theorem decode_bind_eq_ok_iff {First Value : Type} {first : Decoder First}
    {next : First → Decoder Value} {octets left : Octets} {value : Value} :
    decode (first >>= next) octets = (.ok value, left) ↔
      ∃ found middle, decode first octets = (.ok found, middle) ∧
        decode (next found) middle = (.ok value, left) := by
  rw [decode_bind]
  constructor
  · intro read
    split at read
    · rename_i found middle started
      exact ⟨found, middle, started, read⟩
    · cases read
  · rintro ⟨found, middle, started, read⟩
    rw [started]
    exact read

/-- The decoder accepts exactly what `write` writes for the value, and leaves what follows it. -/
def Mirrors {Value : Type} (decoder : Decoder Value) (write : Value → Except CodecError Octets) : Prop :=
  ∀ octets value left, decode decoder octets = (.ok value, left) ↔
    ∃ written, write value = .ok written ∧ octets = written ++ left

theorem octet_mirrors (field : String) : (octet field).Mirrors Field.octet := by
  intro octets value left
  simp only [Field.octet, Except.ok.injEq]
  cases octets with
  | nil => simp [decode, ExceptT.run, octet]
  | cons first rest =>
      constructor
      · intro read
        cases read
        exact ⟨[value], rfl, rfl⟩
      · rintro ⟨written, rfl, same⟩
        cases same
        rfl

theorem octets_eq_ok_iff {count : Nat} {field : String} {octets value left : Octets} :
    decode (Decoder.octets count field) octets = (.ok value, left) ↔
      value.length = count ∧ octets = value ++ left := by
  change (if (octets.take count).length < count then (Except.error (CodecError.truncated field), octets)
    else (.ok (octets.take count), octets.drop count)) = (.ok value, left) ↔ _
  split
  · rename_i short
    simp only [Prod.mk.injEq, reduceCtorEq, false_and, false_iff]
    rintro ⟨rfl, rfl⟩
    simp at short
  · rename_i enough
    simp only [Prod.mk.injEq, Except.ok.injEq]
    constructor
    · rintro ⟨rfl, rfl⟩
      rw [List.length_take] at enough ⊢
      exact ⟨by omega, (List.take_append_drop count octets).symm⟩
    · rintro ⟨rfl, rfl⟩
      simp

theorem listed_mirrors {Value : Type} {read? : UInt8 → Option Value} {write : Value → UInt8}
    (complaint field : String) (reads : ∀ value, read? (write value) = some value)
    (writes : ∀ octet value, read? octet = some value → write value = octet) :
    (listed read? complaint field).Mirrors fun value => Field.octet (write value) := by
  intro octets value left
  rw [listed, decode_bind_eq_ok_iff]
  constructor
  · rintro ⟨found, middle, first, second⟩
    split at second
    · rename_i known
      cases second
      rw [← writes found value known] at first
      exact (octet_mirrors field octets (write value) left).mp first
    · cases second
  · intro written
    refine ⟨write value, left, (octet_mirrors field octets (write value) left).mpr written, ?_⟩
    rw [reads value]
    rfl

theorem typeOfNumber_mirrors (field : String) :
    (typeOfNumber field).Mirrors fun ton => Field.octet ton.toOctet :=
  listed_mirrors _ field TypeOfNumber.ofOctet?_toOctet fun _ _ => TypeOfNumber.toOctet_of_ofOctet?

theorem numberingPlan_mirrors (field : String) :
    (numberingPlan field).Mirrors fun npi => Field.octet npi.toOctet :=
  listed_mirrors _ field NumberingPlan.ofOctet?_toOctet fun _ _ => NumberingPlan.toOctet_of_ofOctet?

theorem interfaceVersion_mirrors (field : String) :
    (interfaceVersion field).Mirrors fun version => Field.octet version.toOctet :=
  listed_mirrors _ field InterfaceVersion.ofOctet?_toOctet
    fun _ _ => InterfaceVersion.toOctet_of_ofOctet?

theorem text_eq_ok_iff {value field : String} {largest : Nat} {written : Octets} :
    Field.text value largest field = .ok written ↔
      (Utf8.encode value).length < largest ∧ 0 ∉ Utf8.encode value ∧
        written = Utf8.encode value ++ [0] := by
  unfold Field.text
  dsimp only
  split
  · rename_i long
    simp only [reduceCtorEq, false_iff]
    omega
  · rename_i short
    split
    · rename_i null
      simp only [reduceCtorEq, false_iff]
      rintro ⟨_, free, _⟩
      exact free (by simpa using null)
    · rename_i free
      simp only [Except.ok.injEq]
      constructor
      · rintro rfl
        exact ⟨by omega, by simpa using free, rfl⟩
      · rintro ⟨_, _, rfl⟩
        rfl

theorem takeWhile_of_terminated {value : Octets} (free : 0 ∉ value) (left : Octets) :
    (value ++ 0 :: left).takeWhile (fun octet => octet != 0) = value := by
  rw [List.takeWhile_append_of_pos]
  · simp
  · intro octet member
    simp only [bne_iff_ne, ne_eq]
    rintro rfl
    exact free member

theorem not_mem_takeWhile_null (octets : Octets) :
    0 ∉ octets.takeWhile (fun octet => octet != 0) := by
  intro member
  have accepted := List.all_takeWhile (p := fun octet : UInt8 => octet != 0) (l := octets)
  rw [List.all_eq_true] at accepted
  simpa using accepted 0 member

theorem terminated_of_shorter {octets : Octets}
    (inside : (octets.takeWhile fun octet => octet != 0).length < octets.length) :
    ∃ left, octets = (octets.takeWhile fun octet => octet != 0) ++ 0 :: left := by
  induction octets with
  | nil => simp at inside
  | cons first rest ih =>
      by_cases null : first = 0
      · exact ⟨rest, by simp [null]⟩
      · simp only [null, List.takeWhile_cons, bne_iff_ne, ne_eq, not_false_eq_true, ↓reduceIte,
          List.length_cons, Nat.add_lt_add_iff_right] at inside ⊢
        obtain ⟨left, split⟩ := ih inside
        exact ⟨left, by rw [List.cons_append, ← split]⟩

theorem text_mirrors (largest : Nat) (field : String) :
    (text largest field).Mirrors fun value => Field.text value largest field := by
  intro octets value left
  simp only [text_eq_ok_iff]
  constructor
  · intro read
    simp only [decode, ExceptT.run, text] at read
    split at read
    · rename_i inside
      split at read
      · rename_i found known
        cases read
        have written := Utf8.encode_of_decode? known
        have free := not_mem_takeWhile_null (octets.take largest)
        obtain ⟨behind, window⟩ := terminated_of_shorter inside
        have whole := List.take_append_drop largest octets
        rw [List.length_take] at inside
        rw [← written] at window free inside ⊢
        rw [window, List.append_assoc, List.cons_append] at whole
        refine ⟨_, ⟨by omega, free, rfl⟩, ?_⟩
        rw [← whole]
        simp
      · cases read
    · cases read
  · rintro ⟨written, ⟨short, free, rfl⟩, rfl⟩
    have window : ((Utf8.encode value ++ [0]) ++ left).take largest =
        Utf8.encode value ++ 0 :: left.take (largest - ((Utf8.encode value).length + 1)) := by
      rw [List.append_assoc, List.take_append, List.take_of_length_le (by omega)]
      obtain ⟨room, same⟩ : ∃ room, largest - (Utf8.encode value).length = room + 1 :=
        ⟨largest - (Utf8.encode value).length - 1, by omega⟩
      rw [same, show largest - ((Utf8.encode value).length + 1) = room by omega]
      rfl
    simp only [decode, ExceptT.run, text, window, takeWhile_of_terminated free]
    simp

theorem parameter_eq_ok_iff {parameter : Parameter} {written : Octets} :
    Field.parameter parameter = .ok written ↔
      parameter.value.length ≤ 65535 ∧
        written = Octets.ofWord16 parameter.tag ++
          Octets.ofWord16 (UInt16.ofNat parameter.value.length) ++ parameter.value := by
  simp only [Field.parameter]
  split
  · rename_i long
    simp only [reduceCtorEq, false_iff]
    omega
  · rename_i short
    simp only [Except.ok.injEq]
    constructor
    · rintro rfl
      exact ⟨by omega, rfl⟩
    · rintro ⟨_, rfl⟩
      rfl

theorem decode_parameter_cons (tagHigh tagLow lengthHigh lengthLow : UInt8) (rest left : Octets)
    (found : Parameter) :
    decode parameter (tagHigh :: tagLow :: lengthHigh :: lengthLow :: rest) = (.ok found, left) ↔
      found.tag = Octets.toWord16 tagHigh tagLow ∧
        found.value.length = (Octets.toWord16 lengthHigh lengthLow).toNat ∧
        rest = found.value ++ left := by
  obtain ⟨tag, value⟩ := found
  simp only [decode, ExceptT.run, parameter]
  split
  · rename_i short
    simp only [Prod.mk.injEq, reduceCtorEq, false_and, false_iff]
    rintro ⟨_, length, rfl⟩
    simp [← length] at short
  · rename_i enough
    simp only [Prod.mk.injEq, Except.ok.injEq, Parameter.mk.injEq]
    constructor
    · rintro ⟨⟨rfl, rfl⟩, rfl⟩
      refine ⟨rfl, ?_, (List.take_append_drop _ _).symm⟩
      rw [List.length_take] at enough ⊢
      omega
    · rintro ⟨rfl, length, rfl⟩
      simp [← length]

theorem parameter_mirrors : parameter.Mirrors Field.parameter := by
  intro octets found left
  simp only [parameter_eq_ok_iff]
  constructor
  · intro read
    match octets with
    | tagHigh :: tagLow :: lengthHigh :: lengthLow :: rest =>
        obtain ⟨tag, length, rfl⟩ := (decode_parameter_cons ..).mp read
        have bound := (Octets.toWord16 lengthHigh lengthLow).toNat_lt
        refine ⟨_, ⟨by omega, rfl⟩, ?_⟩
        rw [tag, length, UInt16.ofNat_toNat, Octets.ofWord16_toWord16, Octets.ofWord16_toWord16]
        simp
    | [] | [_] | [_, _] | [_, _, _] => cases read
  · rintro ⟨written, ⟨short, rfl⟩, rfl⟩
    refine (decode_parameter_cons ..).mpr ⟨?_, ?_, rfl⟩
    · exact (Octets.toWord16_ofNat found.tag).symm
    · rw [Octets.toWord16_ofNat, UInt16.toNat_ofNat_of_lt' (Nat.lt_succ_of_le short)]

theorem decode_parameters_nil : decode parameters [] = (.ok [], []) := by
  change parametersOf [] = _
  rw [parametersOf]

theorem decode_parameters_of_ne_nil {octets : Octets} (more : octets ≠ []) :
    decode parameters octets =
      match decode Decoder.parameter octets with
      | (.error error, middle) => (.error error, middle)
      | (.ok first, middle) =>
          ((decode parameters middle).1.map (first :: ·), (decode parameters middle).2) := by
  obtain ⟨start, rest, rfl⟩ := List.exists_cons_of_ne_nil more
  change parametersOf (start :: rest) = _
  rw [parametersOf]
  split
  · rename_i refused
    simp only [refused]
  · rename_i read
    simp only [read]
    rfl

theorem decode_parameters_cons {first : UInt8} {rest left : Octets} {found : List Parameter} :
    decode parameters (first :: rest) = (.ok found, left) ↔
      ∃ parameter others middle, found = parameter :: others ∧
        decode Decoder.parameter (first :: rest) = (.ok parameter, middle) ∧
        decode parameters middle = (.ok others, left) := by
  rw [decode_parameters_of_ne_nil (List.cons_ne_nil first rest)]
  rcases read : decode Decoder.parameter (first :: rest) with ⟨error | parameter, middle⟩
  · simp
  · rcases tail : decode parameters middle with ⟨error | others, behind⟩ <;> grind [Except.map]

theorem parameters_eq_ok_iff {octets left : Octets} {found : List Parameter} :
    decode parameters octets = (.ok found, left) ↔
      left = [] ∧ Encoding.ofFields (found.map Field.parameter) = ⟨octets, none⟩ := by
  induction found generalizing octets with
  | nil =>
      cases octets with
      | nil => simp [decode_parameters_nil, eq_comm]
      | cons first rest => simp [decode_parameters_cons]
  | cons parameter others ih =>
      rw [List.map_cons, Encoding.ofFields_cons_eq_iff]
      cases octets with
      | nil =>
          simp only [decode_parameters_nil, Prod.mk.injEq, Except.ok.injEq, reduceCtorEq, false_and,
            false_iff]
          rintro ⟨rfl, written, _, wrote, _, whole⟩
          obtain ⟨_, rfl⟩ := parameter_eq_ok_iff.mp wrote
          simp [Octets.ofWord16] at whole
      | cons first rest =>
          rw [decode_parameters_cons]
          constructor
          · rintro ⟨_, _, middle, same, started, tail⟩
            cases same
            obtain ⟨written, wrote, split⟩ := (parameter_mirrors _ _ _).mp started
            obtain ⟨ended, rest⟩ := ih.mp tail
            exact ⟨ended, written, middle, wrote, rest, split⟩
          · rintro ⟨rfl, written, middle, wrote, tail, split⟩
            have started := (parameter_mirrors _ _ _).mpr ⟨written, wrote, split⟩
            exact ⟨parameter, others, middle, rfl, started, ih.mpr ⟨rfl, tail⟩⟩

end Decoder

end Smpp
