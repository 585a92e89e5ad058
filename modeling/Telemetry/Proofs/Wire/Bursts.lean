import Telemetry.Proofs.Wire.Polynomial

/-! Errors that a checksum never misses: bursts of up to eight bits, being shorter than the generator, and an odd
number of changed bits, as the generator vanishes at one. -/
namespace Telemetry

namespace Bytes

theorem set_eq_xor {bytes : Bytes} {index : Nat} {held : UInt8} (h : bytes[index]? = some held) (value : UInt8) :
    bytes.set index value = bytes.xor ((List.replicate bytes.length 0).set index (held ^^^ value)) := by
  obtain ⟨hIndex, hHeld⟩ := List.getElem?_eq_some_iff.mp h
  apply List.ext_getElem
  · simp [xor]
  · intro place hPlace _
    simp only [xor, List.getElem_zipWith, List.getElem_set, List.getElem_replicate]
    split
    · rename_i hSame
      subst hSame
      rw [hHeld, ← UInt8.xor_assoc, UInt8.xor_self, UInt8.zero_xor]
    · rw [UInt8.xor_zero]

end Bytes

namespace Crc8

open Polynomial

/-- Outside one stretch of at most so many bits, none is set. -/
def Burst (width : Nat) (bits : List Bool) : Prop :=
  ∃ before stretch after, bits = before ++ stretch ++ after ∧ stretch.length ≤ width ∧
    true ∉ before ∧ true ∉ after

theorem isCoprime_generator_X : IsCoprime generator X := by
  refine ⟨1, -(X ^ 7 + X + 1), ?_⟩
  unfold generator
  ring

theorem not_dvd_of_burst {bits : List Bool} (h : Burst 8 bits) (hSome : true ∈ bits) :
    ¬generator ∣ ofBits bits := by
  obtain ⟨before, stretch, after, rfl, hLength, hBefore, hAfter⟩ := h
  have hStretch : ofBits stretch ≠ 0 := by
    intro hZero
    simp [hBefore, hAfter, ofBits_eq_zero_iff.mp hZero] at hSome
  have hDegree : (ofBits stretch).degree < generator.degree := by
    rw [degree_generator]
    exact (degree_ofBits_lt stretch).trans_le (by exact_mod_cast hLength)
  have hMoved : ofBits (before ++ stretch ++ after) = X ^ after.length * ofBits stretch := by
    rw [ofBits_append, ofBits_append, ofBits_eq_zero_iff.mpr hBefore, ofBits_eq_zero_iff.mpr hAfter, zero_mul,
      zero_add, add_zero, mul_comm]
  rw [hMoved]
  intro hDvd
  have hFactor : generator ∣ ofBits stretch := isCoprime_generator_X.pow_right.dvd_of_dvd_mul_left hDvd
  exact generator_monic.not_dvd_of_degree_lt hStretch hDegree hFactor

theorem eval_one_ofBits (bits : List Bool) : (ofBits bits).eval 1 = (bits.count true : ZMod 2) := by
  induction bits with
  | nil => simp [ofBits]
  | cons bit rest ih =>
    rw [ofBits, eval_add, ih, eval_monomial]
    cases bit with
    | false => simp [coefficient]
    | true => simp [coefficient, add_comm]

theorem eval_one_generator : generator.eval 1 = 0 := by
  simp only [generator, eval_add, eval_pow, eval_X, eval_one]
  decide

theorem not_dvd_of_odd {bits : List Bool} (h : Odd (bits.count true)) : ¬generator ∣ ofBits bits := by
  intro hDvd
  have hZero := eval_eq_zero_of_dvd_of_eval_eq_zero hDvd eval_one_generator
  rw [eval_one_ofBits, ZMod.natCast_eq_zero_iff_even] at hZero
  exact Nat.not_even_iff_odd.mpr h hZero

theorem polynomial_zero_cons (later : Bytes) : polynomial (0 :: later) = polynomial later := by
  have hZero : ofBits (Bytes.bits [0]) = 0 := polynomial_register_eq_zero_iff.mpr rfl
  have hSplit : Bytes.bits (0 :: later) = Bytes.bits [0] ++ Bytes.bits later := Bytes.bits_append [0] later
  rw [polynomial, hSplit, ofBits_append, hZero, zero_mul, zero_add]
  rfl

/-- A code word with an error that is none itself is no code word. -/
theorem verify_xor_of_not_dvd {packet error : Bytes} (hPasses : verify packet = true)
    (hLength : error.length = packet.length) (hFirst : error.head? = some 0)
    (hError : ¬generator ∣ polynomial error) : verify (packet.xor error) = false := by
  obtain ⟨later, rfl⟩ := List.head?_eq_some_iff.mp hFirst
  rw [polynomial_zero_cons] at hError
  have hTail : (packet.xor (0 :: later)).tail = Bytes.xor packet.tail later := List.tail_zipWith
  have hLater : packet.tail.length = later.length := by
    rw [List.length_tail, ← hLength, List.length_cons, Nat.add_sub_cancel]
  rw [← Bool.not_eq_true, verify_iff, hTail, polynomial_xor hLater]
  rintro ⟨-, hDvd⟩
  exact hError ((dvd_add_right (verify_iff.mp hPasses).2).mp hDvd)

theorem burst_of_byte (length index : Nat) (change : UInt8) (h : index < length) :
    Burst 8 (Bytes.bits ((List.replicate length 0).set index change)) := by
  have hZeros (count : Nat) : true ∉ Bytes.bits (List.replicate count 0) := by
    rw [Bytes.true_mem_bits_iff]
    rintro ⟨byte, hByte, hSome⟩
    exact hSome (List.eq_of_mem_replicate hByte)
  have hSplit : (List.replicate length 0).set index change =
      List.replicate index 0 ++ [change] ++ List.replicate (length - (index + 1)) 0 := by
    rw [List.set_eq_take_append_cons_drop, if_pos (by simpa using h), List.take_replicate, List.drop_replicate,
      Nat.min_eq_left h.le, List.append_assoc]
    rfl
  rw [hSplit, Bytes.bits_append, Bytes.bits_append]
  exact ⟨_, _, _, rfl, (Bytes.length_bits_singleton change).le, hZeros _, hZeros _⟩

/-- No buffer that passes does so with a burst of up to eight bits, an odd number of changed bits or any one
byte replaced, as long as its first byte stays. -/
theorem small_errors_rejected {packet : Bytes} (hPasses : verify packet = true) :
    (∀ error : Bytes, error.length = packet.length → error.head? = some 0 → (∃ byte ∈ error, byte ≠ 0) →
      Burst 8 error.bits ∨ Odd (error.bits.count true) → verify (packet.xor error) = false) ∧
    ∀ index held value, 0 < index → packet[index]? = some held → value ≠ held →
      verify (packet.set index value) = false := by
  refine ⟨?_, ?_⟩
  · intro error hLength hFirst hSome hShape
    apply verify_xor_of_not_dvd hPasses hLength hFirst
    rcases hShape with hBurst | hOdd
    · exact not_dvd_of_burst hBurst (Bytes.true_mem_bits_iff.mpr hSome)
    · exact not_dvd_of_odd hOdd
  · intro index held value hIndex hHeld hNew
    obtain ⟨hWithin, -⟩ := List.getElem?_eq_some_iff.mp hHeld
    have hChange : held ^^^ value ≠ 0 := fun hZero => hNew (UInt8.xor_eq_zero_iff.mp hZero).symm
    have hFirst : ((List.replicate packet.length 0).set index (held ^^^ value)).head? = some 0 := by
      rw [List.head?_eq_getElem?, List.getElem?_set_ne hIndex.ne', List.getElem?_replicate,
        if_pos (Nat.zero_lt_of_lt hWithin)]
    have hSome : true ∈ Bytes.bits ((List.replicate packet.length 0).set index (held ^^^ value)) :=
      Bytes.true_mem_bits_iff.mpr ⟨_, List.mem_set (by simpa using hWithin) _, hChange⟩
    rw [Bytes.set_eq_xor hHeld]
    exact verify_xor_of_not_dvd hPasses (by simp) hFirst
      (not_dvd_of_burst (burst_of_byte packet.length index _ hWithin) hSome)

/-- A burst over the end of the payload and into the checksum, and another payload. -/
theorem small_errors_rejected_trial :
    let packet : Bytes := [0x53, 2, 5, 7, 0x0A, 0xB1]
    let error : Bytes := [0, 0, 0, 0, 0x05, 0x88]
    verify packet = true ∧ Burst 8 error.bits ∧ verify (packet.xor error) = false ∧
      verify (packet.set 4 0x0B) = false := by
  intro packet error
  have hPasses : verify packet = true := by decide +kernel
  have hBurst : Burst 8 error.bits :=
    ⟨error.bits.take 37, (error.bits.drop 37).take 8, error.bits.drop 45,
      by decide, by decide, by decide, by decide⟩
  obtain ⟨hError, hByte⟩ := small_errors_rejected hPasses
  exact ⟨hPasses, hBurst, hError error rfl rfl ⟨0x88, by decide, by decide⟩ (.inl hBurst),
    hByte 4 0x0A 0x0B (by decide) rfl (by decide)⟩

end Crc8

end Telemetry
