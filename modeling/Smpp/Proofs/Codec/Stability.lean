import Smpp.Codec.Decode

/-!
What the first octets of a stream decide is not changed by the octets behind them: the length that is
declared, the header, and the frame or the error that a whole frame gives.
-/

namespace Smpp

namespace Frame

def declared? : Octets → Option UInt32
  | a :: b :: c :: d :: _ => some (Octets.toWord32 a b c d)
  | _ => none

theorem declared?_append {octets : Octets} {length : UInt32} (declared : declared? octets = some length)
    (rest : Octets) : declared? (octets ++ rest) = some length := by
  unfold declared? at declared
  split at declared
  · exact declared
  · cases declared

theorem check_of_declared?_eq_none {octets : Octets} (undeclared : declared? octets = none) :
    check octets = .error .incomplete := by
  unfold declared? at undeclared
  split at undeclared
  · cases undeclared
  · rename_i short
    unfold check
    split
    · rename_i a b c d tail
      exact absurd rfl (short a b c d tail)
    · rfl

theorem check_of_declared? {octets : Octets} {length : UInt32} (declared : declared? octets = some length) :
    check octets =
      if length.toNat < Header.size ∨ Header.largestFrame < length.toNat then
        .error (.invalidLength length 16 65536)
      else if octets.length < length.toNat then .error .incomplete
      else .ok length.toNat := by
  unfold declared? at declared
  split at declared
  · rename_i a b c d rest
    cases declared
    by_cases outside : (Octets.toWord32 a b c d).toNat < Header.size ∨
        Header.largestFrame < (Octets.toWord32 a b c d).toNat
    · simp only [check, Header.checkLength, if_pos outside]
      rfl
    · simp only [check, Header.checkLength, if_neg outside]
      have waits : ((a :: b :: c :: d :: rest).take (Octets.toWord32 a b c d).toNat).length <
            (Octets.toWord32 a b c d).toNat ↔
          (a :: b :: c :: d :: rest).length < (Octets.toWord32 a b c d).toNat := by
        rw [List.length_take]
        omega
      simp only [waits]
  · cases declared

theorem check_eq_ok_iff {octets : Octets} {size : Nat} :
    check octets = .ok size ↔
      ∃ length, declared? octets = some length ∧ length.toNat = size ∧ Header.size ≤ size ∧
        size ≤ Header.largestFrame ∧ size ≤ octets.length := by
  cases declared : declared? octets with
  | none => simp [check_of_declared?_eq_none declared]
  | some length =>
      rw [check_of_declared? declared]
      simp only [Option.some.injEq, exists_eq_left']
      split
      · simp only [reduceCtorEq, false_iff]
        omega
      · split
        · simp only [reduceCtorEq, false_iff]
          omega
        · simp only [Except.ok.injEq]
          omega

theorem check_eq_incomplete_iff {octets : Octets} :
    check octets = .error .incomplete ↔
      ∀ length, declared? octets = some length →
        Header.size ≤ length.toNat ∧ length.toNat ≤ Header.largestFrame ∧
          octets.length < length.toNat := by
  cases declared : declared? octets with
  | none => simp [check_of_declared?_eq_none declared]
  | some length =>
      rw [check_of_declared? declared]
      simp only [Option.some.injEq, forall_eq']
      split
      · simp only [Except.error.injEq, reduceCtorEq, false_iff]
        omega
      · split
        · simp only [true_iff]
          omega
        · simp only [reduceCtorEq, false_iff]
          omega

theorem check_eq_error_iff {octets : Octets} {error : CodecError} (decided : error ≠ .incomplete) :
    check octets = .error error ↔
      ∃ length, declared? octets = some length ∧ error = .invalidLength length 16 65536 ∧
        (length.toNat < Header.size ∨ Header.largestFrame < length.toNat) := by
  cases declared : declared? octets with
  | none => simp [check_of_declared?_eq_none declared, decided.symm]
  | some length =>
      rw [check_of_declared? declared]
      simp only [Option.some.injEq, exists_eq_left']
      split
      · rename_i outside
        simp only [Except.error.injEq, outside, and_true]
        exact eq_comm
      · rename_i inside
        have waits : (if octets.length < length.toNat then Except.error CodecError.incomplete
            else Except.ok length.toNat) ≠ .error error := by
          split
          · simpa using decided.symm
          · simp
        simp only [waits, inside, and_false]

theorem check_append {octets : Octets} {size : Nat} (checked : check octets = .ok size) (rest : Octets) :
    check (octets ++ rest) = .ok size := by
  obtain ⟨length, declared, same, smallest, largest, whole⟩ := check_eq_ok_iff.mp checked
  refine check_eq_ok_iff.mpr ⟨length, declared?_append declared rest, same, smallest, largest, ?_⟩
  rw [List.length_append]
  omega

end Frame

namespace Header

theorem decode_append {octets : Octets} (present : size ≤ octets.length) (rest : Octets) :
    (decoder.decode (octets ++ rest)).1 = (decoder.decode octets).1 := by
  unfold size at present
  match octets, present with
  | a₁ :: a₂ :: a₃ :: a₄ :: b₁ :: b₂ :: b₃ :: b₄ :: c₁ :: c₂ :: c₃ :: c₄ ::
      d₁ :: d₂ :: d₃ :: d₄ :: tail, _ =>
      simp only [List.cons_append, Decoder.decode, ExceptT.run, decoder]
      split <;> rfl

theorem decode_of_check {octets : Octets} {length : Nat} (checked : Frame.check octets = .ok length) :
    ∃ header, (decoder.decode octets).1 = .ok header ∧ header.length.toNat = length := by
  obtain ⟨declaredLength, declared, same, smallest, largest, whole⟩ := Frame.check_eq_ok_iff.mp checked
  have present : 16 ≤ octets.length := by
    unfold size at smallest
    omega
  match octets, present with
  | a₁ :: a₂ :: a₃ :: a₄ :: b₁ :: b₂ :: b₃ :: b₄ :: c₁ :: c₂ :: c₃ :: c₄ ::
      d₁ :: d₂ :: d₃ :: d₄ :: tail, _ =>
      cases declared
      have accepted := checkLength_eq_ok_iff.mpr (by omega :
        size ≤ (Octets.toWord32 a₁ a₂ a₃ a₄).toNat ∧ (Octets.toWord32 a₁ a₂ a₃ a₄).toNat ≤ largestFrame)
      simp only [Decoder.decode, ExceptT.run, decoder, accepted, Except.ok.injEq, exists_eq_left']
      exact same

end Header

namespace Frame

theorem decode_of_check {policy : TagPolicy} {octets : Octets} {length : Nat}
    (checked : check octets = .ok length) :
    decode policy octets = (ofOctets policy (octets.take length)).map fun frame => (frame, length) := by
  simp only [decode, checked, bind, Except.bind]
  cases ofOctets policy (octets.take length) <;> rfl

theorem decode_eq_ok_iff {policy : TagPolicy} {octets : Octets} {frame : Frame} {length : Nat} :
    decode policy octets = .ok (frame, length) ↔
      check octets = .ok length ∧ ofOctets policy (octets.take length) = .ok frame := by
  rw [decode]
  cases checked : check octets with
  | error error => simp [bind, Except.bind]
  | ok found =>
      cases read : ofOctets policy (octets.take found) <;>
        simp only [bind, Except.bind, pure, Except.pure, read] <;> grind

/-- A whole frame gives the same frame or the same error, whatever follows it. -/
theorem decode_append {policy : TagPolicy} {octets : Octets} {length : Nat}
    (checked : check octets = .ok length) (rest : Octets) :
    decode policy (octets ++ rest) = decode policy octets := by
  rw [decode_of_check checked, decode_of_check (check_append checked rest),
    List.take_append_of_le_length (check_bounds checked).2]

end Frame

end Smpp
