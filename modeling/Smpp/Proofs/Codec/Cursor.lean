import Smpp.Proofs.Codec.Fields

/-!
Fields read with every access checked. A cursor gives nothing at all for a slice that is out of range, for
octets taken where none are left, or in a case that is not to come; so that a cursor which always gives what a
decoder gives shows that the decoder never gets there.
-/

namespace Smpp

def Octets.slice? (octets : Octets) (start stop : Nat) : Option Octets :=
  if start ≤ stop ∧ stop ≤ octets.length then some ((octets.take stop).drop start) else none

/-- The error lies within the frame: all its octets were there, and its length was not in doubt. -/
def CodecError.IsContained (error : CodecError) : Prop := error ≠ .incomplete ∧ error.isDesync = false

/-- A reader whose every access has to be inside its octets. -/
abbrev Cursor := ExceptT CodecError (StateT Octets Option)

namespace Cursor

variable {First Value : Type}

def read (cursor : Cursor Value) (octets : Octets) : Option (Except CodecError Value × Octets) :=
  cursor.run octets

def never : Cursor Value := fun _ => none

def present (found : Option Value) : Cursor Value := fun octets => found.map fun value => (.ok value, octets)

def remaining : Cursor Nat := fun octets => some (.ok octets.length, octets)

def peek (start stop : Nat) : Cursor Octets := fun octets =>
  (octets.slice? start stop).map fun part => (.ok part, octets)

def advance (count : Nat) : Cursor Unit := fun octets =>
  if count ≤ octets.length then some (.ok (), octets.drop count) else none

def take (count : Nat) : Cursor Octets := do
  let part ← peek 0 count
  advance count
  pure part

def next : Cursor UInt8
  | [] => none
  | first :: rest => some (.ok first, rest)

def word16 : Cursor UInt16 := do
  let high ← next
  let low ← next
  pure (Octets.toWord16 high low)

def word32 : Cursor UInt32 := do
  let first ← next
  let second ← next
  let third ← next
  let fourth ← next
  pure (Octets.toWord32 first second third fourth)

def require (count : Nat) (complaint : Nat → CodecError) : Cursor Unit := do
  let left ← remaining
  if left < count then throw (complaint left) else pure ()

def text (largest : Nat) (field : String) : Cursor String := do
  let window ← peek 0 (min (← remaining) largest)
  match window.findIdx? (· == 0) with
  | none => throw (.missingTerminator field largest)
  | some stop =>
      let value ← present (window.slice? 0 stop)
      advance (stop + 1)
      match Utf8.decode? value with
      | some text => pure text
      | none => throw (.invalidText field (Utf8.fault value))

def octet (field : String) : Cursor UInt8 := do
  require 1 fun _ => .truncated field
  next

def octets (count : Nat) (field : String) : Cursor Octets := do
  require count fun _ => .truncated field
  take count

def listed (read? : UInt8 → Option Value) (complaint field : String) : Cursor Value := do
  let value ← octet field
  match read? value with
  | some listed => pure listed
  | none => throw (.invalidField field s!"{complaint} 0x{Numeral.hexadecimal 2 value.toNat}")

def parameter : Cursor Parameter := do
  require 4 fun left => .malformedParameter s!"{left} trailing bytes cannot hold a TLV header"
  let tag ← word16
  let length ← word16
  require length.toNat fun left =>
    .malformedParameter
      s!"TLV 0x{Numeral.hexadecimal 4 tag.toNat} declares {length.toNat} bytes, only {left} remain"
  let value ← take length.toNat
  pure ⟨tag, value⟩

def parametersWithin : Nat → Cursor (List Parameter)
  | 0 => never
  | tries + 1 => do
      if (← remaining) = 0 then pure []
      else
        let first ← parameter
        let others ← parametersWithin tries
        pure (first :: others)

def parameters : Cursor (List Parameter) := do parametersWithin ((← remaining) + 1)

@[simp] theorem read_pure (value : Value) (octets : Octets) :
    read (pure value) octets = some (.ok value, octets) := rfl

@[simp] theorem read_remaining (octets : Octets) :
    read remaining octets = some (.ok octets.length, octets) := rfl

theorem read_bind (first : Cursor First) (following : First → Cursor Value) (octets : Octets) :
    read (first >>= following) octets =
      (read first octets).bind fun found =>
        match found with
        | (.ok value, left) => read (following value) left
        | (.error error, left) => some (.error error, left) := by
  change (first octets).bind (fun found => ExceptT.bindCont following found.1 found.2) = _
  unfold read ExceptT.run
  cases first octets with
  | none => rfl
  | some found =>
      obtain ⟨result, left⟩ := found
      cases result <;> rfl

theorem read_bind_of_ok {first : Cursor First} {following : First → Cursor Value} {octets left : Octets}
    {value : First} (found : read first octets = some (.ok value, left)) :
    read (first >>= following) octets = read (following value) left := by
  rw [read_bind, found, Option.bind_some]

theorem read_peek {start stop : Nat} {octets : Octets} (ordered : start ≤ stop) (inside : stop ≤ octets.length) :
    read (peek start stop) octets = some (.ok ((octets.take stop).drop start), octets) := by
  change (octets.slice? start stop).map _ = _
  rw [Octets.slice?, if_pos ⟨ordered, inside⟩, Option.map_some]

theorem read_advance {count : Nat} {octets : Octets} (inside : count ≤ octets.length) :
    read (advance count) octets = some (.ok (), octets.drop count) := if_pos inside

theorem read_take {count : Nat} {octets : Octets} (inside : count ≤ octets.length) :
    read (take count) octets = some (.ok (octets.take count), octets.drop count) := by
  rw [take, read_bind_of_ok (read_peek (Nat.zero_le _) inside), read_bind_of_ok (read_advance inside),
    read_pure, List.drop_zero]

example : read (take 2) [7] = none := rfl

theorem read_require (count : Nat) (complaint : Nat → CodecError) (octets : Octets) :
    read (require count complaint) octets =
      some (if octets.length < count then .error (complaint octets.length) else .ok (), octets) := by
  rw [require, read_bind_of_ok (read_remaining octets)]
  split <;> rfl

theorem read_require_of_le {count : Nat} {octets : Octets} (enough : count ≤ octets.length)
    (complaint : Nat → CodecError) : read (require count complaint) octets = some (.ok (), octets) := by
  rw [read_require, if_neg (Nat.not_lt_of_le enough)]

theorem read_bind_of_short {count : Nat} {octets : Octets} (short : octets.length < count)
    (complaint : Nat → CodecError) (following : Unit → Cursor Value) :
    read (require count complaint >>= following) octets = some (.error (complaint octets.length), octets) := by
  rw [read_bind, read_require, if_pos short, Option.bind_some]

theorem read_word16 (high low : UInt8) (rest : Octets) :
    read word16 (high :: low :: rest) = some (.ok (Octets.toWord16 high low), rest) := rfl

theorem read_word32 (first second third fourth : UInt8) (rest : Octets) :
    read word32 (first :: second :: third :: fourth :: rest) =
      some (.ok (Octets.toWord32 first second third fourth), rest) := rfl

/-- The cursor stays inside on all octets and gives what the decoder gives; and what the decoder complains of
lies within the frame. -/
structure Guards (cursor : Cursor Value) (decoder : Decoder Value) : Prop where
  reads : ∀ octets, cursor.read octets = some (decoder.decode octets)
  contained : ∀ octets error left, decoder.decode octets = (.error error, left) → error.IsContained

theorem guards_pure (value : Value) : Guards (pure value) (pure value) where
  reads _ := rfl
  contained _ _ _ failed := by cases failed

theorem guards_throw {error : CodecError} (contained : error.IsContained) :
    Guards (throw error : Cursor Value) (throw error) where
  reads _ := rfl
  contained _ _ _ failed := by
    cases failed
    exact contained

theorem Guards.bind {first : Cursor First} {started : Decoder First} {following : First → Cursor Value}
    {continued : First → Decoder Value} (guards : first.Guards started)
    (others : ∀ value, (following value).Guards (continued value)) :
    (first >>= following).Guards (started >>= continued) where
  reads octets := by
    rw [read_bind, guards.reads, Option.bind_some, Decoder.decode_bind]
    rcases started.decode octets with ⟨error | value, left⟩
    · rfl
    · exact (others value).reads left
  contained octets error left failed := by
    rw [Decoder.decode_bind] at failed
    cases found : started.decode octets with
    | mk result middle =>
        rw [found] at failed
        cases result with
        | error cause =>
            cases failed
            exact guards.contained _ _ _ found
        | ok value => exact (others value).contained _ _ _ failed

theorem Guards.map {Whole : Type} {cursor : Cursor Value} {decoder : Decoder Value}
    (guards : cursor.Guards decoder) (make : Value → Whole) : (make <$> cursor).Guards (make <$> decoder) := by
  rw [map_eq_pure_bind, map_eq_pure_bind]
  exact guards.bind fun value => guards_pure (make value)

theorem Guards.optional {cursor : Cursor Value} {decoder : Decoder Value} (guards : cursor.Guards decoder)
    (absent : Value) :
    Guards (remaining >>= fun left => if left = 0 then pure absent else cursor)
      (get >>= fun left => if left.isEmpty then pure absent else decoder) where
  reads octets := by
    rw [read_bind_of_ok (read_remaining octets), Decoder.decode_bind_of_ok (Decoder.decode_get octets)]
    cases octets with
    | nil => rfl
    | cons first rest => exact guards.reads (first :: rest)
  contained octets error left failed := by
    rw [Decoder.decode_bind_of_ok (Decoder.decode_get octets)] at failed
    cases octets with
    | nil => cases failed
    | cons first rest => exact guards.contained _ _ _ failed

theorem guards_octet (field : String) : (octet field).Guards (Decoder.octet field) where
  reads
    | [] => rfl
    | _ :: _ => rfl
  contained octets error left failed := by
    cases octets with
    | nil =>
        cases failed
        exact ⟨nofun, rfl⟩
    | cons first rest => cases failed

theorem guards_octets (count : Nat) (field : String) :
    (octets count field).Guards (Decoder.octets count field) := by
  have decoded : ∀ left : Octets, (Decoder.octets count field).decode left =
      if left.length < count then (.error (.truncated field), left)
      else (.ok (left.take count), left.drop count) := by
    intro left
    have short : (left.take count).length < count ↔ left.length < count := by
      rw [List.length_take]
      omega
    simp only [← short]
    rfl
  constructor
  · intro left
    rw [octets, decoded]
    by_cases short : left.length < count
    · rw [read_bind_of_short short, if_pos short]
    · have enough := Nat.le_of_not_lt short
      rw [read_bind_of_ok (read_require_of_le enough _), read_take enough, if_neg short]
  · intro left error middle failed
    rw [decoded] at failed
    split at failed
    · cases failed
      exact ⟨nofun, rfl⟩
    · cases failed

theorem guards_listed (read? : UInt8 → Option Value) (complaint field : String) :
    (listed read? complaint field).Guards (Decoder.listed read? complaint field) := by
  refine (guards_octet field).bind fun value => ?_
  cases read? value with
  | some found => exact guards_pure found
  | none => exact guards_throw ⟨nofun, rfl⟩

theorem findIdx?_null (octets : Octets) :
    octets.findIdx? (· == 0) =
      if (octets.takeWhile fun octet => octet != 0).length < octets.length then
        some (octets.takeWhile fun octet => octet != 0).length
      else none := by
  induction octets with
  | nil => rfl
  | cons first rest ih =>
      by_cases null : first = 0
      · simp [List.findIdx?_cons, null]
      · have others : ((rest.takeWhile fun octet => octet != 0).length + 1 < rest.length + 1) =
            ((rest.takeWhile fun octet => octet != 0).length < rest.length) := by simp
        simp only [List.findIdx?_cons, List.takeWhile_cons, beq_iff_eq, bne_iff_ne, ne_eq, null,
          not_false_eq_true, if_true, if_false, List.length_cons, others, ih]
        split <;> rfl

def front (largest : Nat) (octets : Octets) : Octets :=
  (octets.take largest).takeWhile fun octet => octet != 0

theorem decode_text (largest : Nat) (field : String) (octets : Octets) :
    (Decoder.text largest field).decode octets =
      if (front largest octets).length < (octets.take largest).length then
        match Utf8.decode? (front largest octets) with
        | some text => (.ok text, octets.drop ((front largest octets).length + 1))
        | none => (.error (.invalidText field (Utf8.fault (front largest octets))),
            octets.drop ((front largest octets).length + 1))
      else (.error (.missingTerminator field largest), octets) := rfl

theorem guards_text (largest : Nat) (field : String) :
    (text largest field).Guards (Decoder.text largest field) := by
  constructor
  · intro octets
    have bound : (octets.take largest).length ≤ octets.length := List.length_take_le' ..
    have window : read (peek 0 (min octets.length largest)) octets = some (.ok (octets.take largest), octets) := by
      rw [read_peek (Nat.zero_le _) (Nat.min_le_left ..), List.drop_zero, Nat.min_comm, ← List.take_eq_take_min]
    have place : (octets.take largest).findIdx? (· == 0) =
        if (front largest octets).length < (octets.take largest).length then
          some (front largest octets).length
        else none := findIdx?_null _
    rw [text, read_bind_of_ok (read_remaining octets), read_bind_of_ok window, place, decode_text]
    by_cases inside : (front largest octets).length < (octets.take largest).length
    · have part : Octets.slice? (octets.take largest) 0 (front largest octets).length =
          some (front largest octets) := by
        have same : (octets.take largest).take (front largest octets).length = front largest octets :=
          (List.prefix_iff_eq_take.mp (List.takeWhile_prefix _)).symm
        rw [Octets.slice?, if_pos ⟨Nat.zero_le _, Nat.le_of_lt inside⟩, List.drop_zero, same]
      have found : read (present (Octets.slice? (octets.take largest) 0 (front largest octets).length)) octets =
          some (.ok (front largest octets), octets) := by
        rw [part]
        rfl
      simp only [if_pos inside]
      rw [read_bind_of_ok found, read_bind_of_ok (read_advance (by omega))]
      cases Utf8.decode? (front largest octets) <;> rfl
    · simp only [if_neg inside]
      rfl
  · intro octets error left failed
    rw [decode_text] at failed
    split at failed
    · split at failed
      · cases failed
      · cases failed
        exact ⟨nofun, rfl⟩
    · cases failed
      exact ⟨nofun, rfl⟩

theorem guards_parameter : parameter.Guards Decoder.parameter := by
  constructor
  · intro octets
    match octets with
    | tagHigh :: tagLow :: lengthHigh :: lengthLow :: rest =>
        have header : 4 ≤ (tagHigh :: tagLow :: lengthHigh :: lengthLow :: rest).length :=
          Nat.le_add_left 4 rest.length
        rw [parameter, read_bind_of_ok (read_require_of_le header _), read_bind_of_ok (read_word16 ..),
          read_bind_of_ok (read_word16 ..)]
        unfold Decoder.decode ExceptT.run Decoder.parameter
        dsimp only
        by_cases short : rest.length < (Octets.toWord16 lengthHigh lengthLow).toNat
        · have cut : (rest.take (Octets.toWord16 lengthHigh lengthLow).toNat).length <
              (Octets.toWord16 lengthHigh lengthLow).toNat := by
            rw [List.length_take]
            omega
          rw [read_bind_of_short short, if_pos cut]
        · have enough := Nat.le_of_not_lt short
          have whole : ¬ (rest.take (Octets.toWord16 lengthHigh lengthLow).toNat).length <
              (Octets.toWord16 lengthHigh lengthLow).toNat := by
            rw [List.length_take]
            omega
          rw [read_bind_of_ok (read_require_of_le enough _), read_bind_of_ok (read_take enough), if_neg whole,
            read_pure]
    | [] | [_] | [_, _] | [_, _, _] => rfl
  · intro octets error left failed
    unfold Decoder.decode ExceptT.run Decoder.parameter at failed
    split at failed
    · dsimp only at failed
      split at failed
      · cases failed
        exact ⟨nofun, rfl⟩
      · cases failed
    · cases failed
      exact ⟨nofun, rfl⟩

theorem read_parametersWithin {tries : Nat} {octets : Octets} (enough : octets.length < tries) :
    read (parametersWithin tries) octets = some (Decoder.parameters.decode octets) := by
  induction tries generalizing octets with
  | zero => exact absurd enough (Nat.not_lt_zero _)
  | succ tries ih =>
      rw [parametersWithin, read_bind_of_ok (read_remaining octets)]
      by_cases done : octets = []
      · subst done
        rw [Decoder.decode_parameters_nil]
        rfl
      · have some_left : octets.length ≠ 0 := mt List.length_eq_zero_iff.mp done
        rw [if_neg some_left, read_bind, guards_parameter.reads, Option.bind_some,
          Decoder.decode_parameters_of_ne_nil done]
        rcases found : Decoder.parameter.decode octets with ⟨error | first, middle⟩
        · rfl
        · have shorter := Decoder.length_lt_of_parameter found
          dsimp only
          rw [read_bind, ih (by omega), Option.bind_some]
          rcases Decoder.parameters.decode middle with ⟨error | others, left⟩ <;> rfl

theorem contained_of_parameters {tries : Nat} {octets left : Octets} {error : CodecError}
    (bound : octets.length < tries) (failed : Decoder.parameters.decode octets = (.error error, left)) :
    error.IsContained := by
  induction tries generalizing octets left with
  | zero => exact absurd bound (Nat.not_lt_zero _)
  | succ tries ih =>
      by_cases done : octets = []
      · rw [done, Decoder.decode_parameters_nil] at failed
        cases failed
      · rw [Decoder.decode_parameters_of_ne_nil done] at failed
        rcases found : Decoder.parameter.decode octets with ⟨cause | first, middle⟩
        · rw [found] at failed
          cases failed
          exact guards_parameter.contained _ _ _ found
        · have shorter := Decoder.length_lt_of_parameter found
          rw [found] at failed
          rcases others : Decoder.parameters.decode middle with ⟨cause | values, rest⟩
          · simp only [others] at failed
            cases failed
            exact ih (by omega) others
          · simp only [others] at failed
            cases failed

theorem guards_parameters : parameters.Guards Decoder.parameters where
  reads octets := by
    rw [parameters, read_bind_of_ok (read_remaining octets), read_parametersWithin (Nat.lt_succ_self _)]
  contained octets _ _ failed := contained_of_parameters (Nat.lt_succ_self octets.length) failed

end Cursor

end Smpp
