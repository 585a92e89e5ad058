import Mathlib.Algebra.CharP.Two
import Mathlib.Algebra.Field.ZMod
import Mathlib.RingTheory.AdjoinRoot
import Mathlib.Tactic.ComputeDegree
import Telemetry.Proofs.Wire.Remainder

/-! Byte strings as polynomials over two elements, highest power first. A checksum is the remainder of the covered
bytes, moved up by one byte, modulo x⁸ + x² + x + 1; a buffer passes if this divides all that follows its first byte. -/
namespace Telemetry

/-- All bits, the most significant of each byte first. -/
def Bytes.bits (bytes : Bytes) : List Bool :=
  bytes.flatMap fun byte => (List.range 8).map byte.toBitVec.getMsbD

/-- Two byte strings added bit by bit. -/
def Bytes.xor (left right : Bytes) : Bytes :=
  List.zipWith (· ^^^ ·) left right

namespace Bytes

theorem bits_append (left right : Bytes) : bits (left ++ right) = bits left ++ bits right :=
  List.flatMap_append

theorem bits_singleton (byte : UInt8) : bits [byte] = (List.range 8).map byte.toBitVec.getMsbD :=
  List.append_nil _

theorem length_bits_singleton (byte : UInt8) : (bits [byte]).length = 8 := by
  rw [bits_singleton, List.length_map, List.length_range]

theorem bits_xor {left right : Bytes} (h : left.length = right.length) :
    bits (left.xor right) = List.zipWith Bool.xor (bits left) (bits right) := by
  induction left generalizing right with
  | nil => rfl
  | cons a left ih =>
    match right, h with
    | b :: right, h =>
      have hByte : bits [a ^^^ b] = List.zipWith Bool.xor (bits [a]) (bits [b]) := by
        simp [bits_singleton, List.zipWith_map, BitVec.getMsbD_xor]
      have hEight : (bits [a]).length = (bits [b]).length := by
        rw [length_bits_singleton, length_bits_singleton]
      change bits ([a ^^^ b] ++ xor left right) =
        List.zipWith Bool.xor (bits ([a] ++ left)) (bits ([b] ++ right))
      rw [bits_append, bits_append, bits_append, hByte, ih (Nat.succ.inj h), List.zipWith_append hEight]

theorem bits_shiftLeft (byte : UInt8) : bits [byte <<< 1] = (bits [byte]).tail ++ [false] := by
  simp [bits_singleton, List.range_succ, UInt8.toBitVec_shiftLeft, BitVec.getMsbD_shiftLeft]

theorem true_mem_bits_iff {bytes : Bytes} : true ∈ bits bytes ↔ ∃ byte ∈ bytes, byte ≠ 0 := by
  have hByte (byte : UInt8) : true ∈ (List.range 8).map byte.toBitVec.getMsbD ↔ byte ≠ 0 := by
    rw [List.mem_map]
    constructor
    · rintro ⟨place, -, hBit⟩ rfl
      simp at hBit
    · intro h
      by_contra hNone
      apply h
      apply UInt8.toBitVec_inj.mp
      apply BitVec.eq_of_getMsbD_eq
      intro place hPlace
      have hClear : byte.toBitVec.getMsbD place ≠ true :=
        fun hBit => hNone ⟨place, List.mem_range.mpr hPlace, hBit⟩
      simpa using hClear
  simp only [bits, List.mem_flatMap, hByte]

end Bytes

namespace Crc8

open Polynomial

/-- A bit as an element of the field. -/
def coefficient (bit : Bool) : ZMod 2 :=
  if bit then 1 else 0

theorem coefficient_xor (a b : Bool) : coefficient (a ^^ b) = coefficient a + coefficient b := by
  cases a <;> cases b <;> decide

/-- The polynomial with some coefficients, from that of the highest power down to the constant. -/
noncomputable def ofBits : List Bool → (ZMod 2)[X]
  | [] => 0
  | bit :: rest => monomial rest.length (coefficient bit) + ofBits rest

/-- The polynomial that a byte string stands for. -/
noncomputable def polynomial (bytes : Bytes) : (ZMod 2)[X] :=
  ofBits bytes.bits

noncomputable def generator : (ZMod 2)[X] :=
  X ^ 8 + X ^ 2 + X + 1

theorem degree_generator : generator.degree = 8 := by
  unfold generator
  compute_degree!

theorem generator_monic : generator.Monic := by
  unfold generator
  monicity!

theorem ofBits_append (left right : List Bool) :
    ofBits (left ++ right) = ofBits left * X ^ right.length + ofBits right := by
  induction left with
  | nil => simp [ofBits]
  | cons bit left ih =>
    rw [List.cons_append, ofBits, ofBits, ih, List.length_append, add_mul, monomial_mul_X_pow, add_assoc]

theorem ofBits_xor {left right : List Bool} (h : left.length = right.length) :
    ofBits (List.zipWith Bool.xor left right) = ofBits left + ofBits right := by
  induction left generalizing right with
  | nil =>
    rw [List.eq_nil_of_length_eq_zero h.symm]
    simp [ofBits]
  | cons a left ih =>
    match right, h with
    | b :: right, h =>
      have hLength := Nat.succ.inj h
      rw [List.zipWith_cons_cons, ofBits, ofBits, ofBits, ih hLength, coefficient_xor, map_add, List.length_zipWith,
        hLength, Nat.min_self, add_add_add_comm]

theorem degree_ofBits_lt (bits : List Bool) : (ofBits bits).degree < bits.length := by
  induction bits with
  | nil => simp [ofBits]
  | cons bit rest ih =>
    have hGrows : (rest.length : WithBot ℕ) < (bit :: rest).length := by
      rw [List.length_cons]
      exact_mod_cast Nat.lt_succ_self _
    exact (degree_add_le _ _).trans_lt (max_lt ((degree_monomial_le _ _).trans_lt hGrows) (ih.trans hGrows))

theorem ofBits_eq_zero_iff {bits : List Bool} : ofBits bits = 0 ↔ true ∉ bits := by
  induction bits with
  | nil => simp [ofBits]
  | cons bit rest ih =>
    cases bit with
    | false => simp [ofBits, coefficient, ih]
    | true =>
      have hTop : (monomial rest.length (coefficient true)).degree = rest.length :=
        degree_monomial _ (by decide)
      have hDegree : (ofBits (true :: rest)).degree = rest.length := by
        rw [ofBits, degree_add_eq_left_of_degree_lt, hTop]
        rw [hTop]
        exact degree_ofBits_lt rest
      have hSome : ofBits (true :: rest) ≠ 0 := by
        intro hZero
        rw [hZero] at hDegree
        simp at hDegree
      simp [hSome]

theorem polynomial_eq_zero_iff {bytes : Bytes} : polynomial bytes = 0 ↔ ∀ byte ∈ bytes, byte = 0 := by
  rw [polynomial, ofBits_eq_zero_iff, Bytes.true_mem_bits_iff]
  simp

theorem polynomial_xor {left right : Bytes} (h : left.length = right.length) :
    polynomial (left.xor right) = polynomial left + polynomial right := by
  have hBits : left.bits.length = right.bits.length := by
    simp [Bytes.bits, h]
  rw [polynomial, Bytes.bits_xor h, ofBits_xor hBits]
  rfl

theorem polynomial_concat (bytes : Bytes) (byte : UInt8) :
    polynomial (bytes ++ [byte]) = polynomial bytes * X ^ 8 + polynomial [byte] := by
  rw [polynomial, Bytes.bits_append, ofBits_append, Bytes.length_bits_singleton]
  rfl

/-! Registers stand for the polynomials of a degree less than the generator's. -/

theorem polynomial_register_xor (a b : UInt8) : polynomial [a ^^^ b] = polynomial [a] + polynomial [b] :=
  @polynomial_xor [a] [b] rfl

theorem polynomial_register_eq_zero_iff {register : UInt8} : polynomial [register] = 0 ↔ register = 0 := by
  rw [polynomial_eq_zero_iff, List.forall_mem_singleton]

theorem polynomial_register_injective {a b : UInt8} (h : polynomial [a] = polynomial [b]) : a = b := by
  apply UInt8.xor_eq_zero_iff.mp
  apply polynomial_register_eq_zero_iff.mp
  rw [polynomial_register_xor, h, CharTwo.add_self_eq_zero]

theorem degree_register_lt (register : UInt8) : (polynomial [register]).degree < generator.degree := by
  have h := degree_ofBits_lt (Bytes.bits [register])
  rw [Bytes.length_bits_singleton] at h
  rw [degree_generator]
  exact_mod_cast h

theorem generator_dvd_register_iff {register : UInt8} : generator ∣ polynomial [register] ↔ register = 0 := by
  rw [← polynomial_register_eq_zero_iff]
  constructor
  · intro hDvd
    by_contra hSome
    exact generator_monic.not_dvd_of_degree_lt hSome (degree_register_lt register) hDvd
  · intro hZero
    rw [hZero]
    exact dvd_zero _

/-- One place to the left is a factor x, less the generator for a bit that falls out. -/
theorem polynomial_mul_X (register : UInt8) : polynomial [register] * X =
    polynomial [shift register] + (if register.toBitVec.msb then generator else 0) := by
  obtain ⟨later, hBits⟩ : ∃ later, Bytes.bits [register] = register.toBitVec.msb :: later :=
    ⟨_, Bytes.bits_singleton register⟩
  have hLength : later.length = 7 := by
    have hEight := Bytes.length_bits_singleton register
    rw [hBits] at hEight
    exact Nat.succ.inj hEight
  have hMoved : polynomial [register <<< 1] = ofBits later * X := by
    rw [polynomial, Bytes.bits_shiftLeft, hBits, List.tail_cons, ofBits_append]
    simp [ofBits, coefficient]
  have hWhole : polynomial [register] * X =
      monomial 8 (coefficient register.toBitVec.msb) + polynomial [register <<< 1] := by
    rw [hMoved, polynomial, hBits, ofBits, add_mul, monomial_mul_X, hLength]
  have hMask : polynomial [7] = X ^ 2 + X + 1 := by
    have hMaskBits : Bytes.bits [7] = [false, false, false, false, false, true, true, true] := by decide
    rw [polynomial, hMaskBits]
    simp [ofBits, coefficient, monomial_one_right_eq_X_pow, add_assoc]
  have hShift : polynomial [shift register] =
      polynomial [register <<< 1] + (if register.toBitVec.msb then X ^ 2 + X + 1 else 0) := by
    rw [shift_eq]
    split
    · rw [polynomial_register_xor, hMask]
    · rw [UInt8.xor_zero, add_zero]
  rw [hWhole, hShift]
  cases register.toBitVec.msb with
  | false => simp [coefficient]
  | true =>
    have hTwo : (2 : (ZMod 2)[X]) = 0 := CharTwo.two_eq_zero
    simp only [coefficient, if_true, generator, monomial_one_right_eq_X_pow]
    linear_combination -(X ^ 2 + X + 1) * hTwo

/-! Absorbing byte after byte keeps the residue of what was absorbed so far, one byte further up. -/

/-- A polynomial up to multiples of the generator. -/
noncomputable def residue : (ZMod 2)[X] →+* AdjoinRoot generator :=
  AdjoinRoot.mk generator

theorem residue_eq_zero_iff {p : (ZMod 2)[X]} : residue p = 0 ↔ generator ∣ p :=
  AdjoinRoot.mk_eq_zero

theorem residue_shift (register : UInt8) :
    residue (polynomial [shift register]) = residue (polynomial [register] * X) := by
  have hGenerator : residue generator = 0 := residue_eq_zero_iff.mpr dvd_rfl
  rw [polynomial_mul_X, map_add]
  split
  · rw [hGenerator, add_zero]
  · rw [map_zero, add_zero]

theorem residue_shifts (n : Nat) (register : UInt8) :
    residue (polynomial [shifts n register]) = residue (polynomial [register] * X ^ n) := by
  induction n generalizing register with
  | zero => rw [pow_zero, mul_one, shifts]
  | succ n ih => rw [shifts, ih, map_mul, residue_shift, ← map_mul, mul_assoc, ← pow_succ']

theorem residue_absorb (register byte : UInt8) : residue (polynomial [absorb register byte]) =
    residue ((polynomial [register] + polynomial [byte]) * X ^ 8) := by
  rw [absorb, residue_shifts, polynomial_register_xor]

theorem residue_remainder (bytes : Bytes) :
    residue (polynomial [remainder bytes]) = residue (polynomial bytes * X ^ 8) := by
  induction bytes using List.reverseRecOn with
  | nil =>
    have hZero : polynomial [] = 0 := polynomial_eq_zero_iff.mpr (by simp)
    rw [remainder_nil, polynomial_register_eq_zero_iff.mpr rfl, hZero, zero_mul]
  | append_singleton bytes byte ih =>
    rw [remainder_concat, residue_absorb, polynomial_concat, map_mul, map_add, ih, ← map_add, ← map_mul]

theorem polynomial_remainder (bytes : Bytes) :
    polynomial [remainder bytes] = (polynomial bytes * X ^ 8) %ₘ generator := by
  have hSame : generator ∣ polynomial [remainder bytes] - polynomial bytes * X ^ 8 :=
    AdjoinRoot.mk_eq_mk.mp (residue_remainder bytes)
  rw [← modByMonic_eq_of_dvd_sub generator_monic hSame]
  exact ((modByMonic_eq_self_iff generator_monic).mpr (degree_register_lt _)).symm

theorem polynomial_checksum (packet : Bytes) :
    polynomial [checksum packet] = (polynomial (covered packet) * X ^ 8) %ₘ generator :=
  polynomial_remainder _

theorem generator_dvd_concat_iff {body : Bytes} {slot : UInt8} :
    generator ∣ polynomial (body ++ [slot]) ↔ remainder body = slot := by
  rw [polynomial_concat, ← residue_eq_zero_iff, map_add, ← residue_remainder, ← map_add,
    ← polynomial_register_xor, residue_eq_zero_iff, generator_dvd_register_iff, UInt8.xor_eq_zero_iff]

theorem verify_iff {packet : Bytes} :
    verify packet = true ↔ 3 ≤ packet.length ∧ generator ∣ polynomial packet.tail := by
  match packet with
  | [] => simp [verify]
  | marker :: later =>
    obtain rfl | ⟨body, slot, rfl⟩ := later.eq_nil_or_concat'
    · simp [verify]
    · have hLast : (marker :: (body ++ [slot])).getLast? = some slot :=
        List.getLast?_append_of_ne_nil (marker :: body) (by simp)
      have hChecksum : checksum (marker :: (body ++ [slot])) = remainder body := checksum_concat marker body slot
      rw [verify, hLast]
      dsimp only
      rw [hChecksum, List.tail_cons, generator_dvd_concat_iff, Bool.and_eq_true, decide_eq_true_eq, beq_iff_eq]

theorem covered_xor {left right : Bytes} (h : left.length = right.length) :
    covered (left.xor right) = (covered left).xor (covered right) := by
  simp only [covered, Bytes.xor, List.tail_zipWith, List.dropLast_eq_take, List.take_zipWith, List.length_zipWith,
    List.length_tail, h, Nat.min_self]

theorem checksum_xor {left right : Bytes} (h : left.length = right.length) :
    checksum (left.xor right) = checksum left ^^^ checksum right := by
  have hCovered : (covered left).length = (covered right).length := by
    simp [covered, h]
  apply polynomial_register_injective
  rw [polynomial_checksum, covered_xor h, polynomial_xor hCovered, add_mul, add_modByMonic,
    ← polynomial_checksum, ← polynomial_checksum, polynomial_register_xor]

/-- The buffers that pass are exactly the code words behind a first byte; a checksum is the remainder of the
covered bytes moved up by one byte, and the checksum of a sum is the sum of the checksums. -/
theorem passing_iff_codeword (packet : Bytes) :
    (verify packet = true ↔ 3 ≤ packet.length ∧ generator ∣ polynomial packet.tail) ∧
    polynomial [checksum packet] = (polynomial (covered packet) * X ^ 8) %ₘ generator ∧
    ∀ other : Bytes, other.length = packet.length →
      checksum (packet.xor other) = checksum packet ^^^ checksum other :=
  ⟨verify_iff, polynomial_checksum packet, fun _ hLength => checksum_xor hLength.symm⟩

/-- A threshold packet, which is a code word behind its marker, and a change of its payload, after which it is none. -/
theorem passing_iff_codeword_trial :
    let packet : Bytes := [0x53, 2, 5, 7, 0x0A, 0xB1]
    let change : Bytes := [0, 0, 0, 0, 0x81, 0]
    verify packet = true ∧ generator ∣ polynomial [2, 5, 7, 0x0A, 0xB1] ∧
    verify (packet.xor change) = false ∧ ¬ generator ∣ polynomial [2, 5, 7, 0x8B, 0xB1] ∧
    checksum packet = 0xB1 ∧ polynomial [0xB1] = (polynomial [2, 5, 7, 0x0A] * X ^ 8) %ₘ generator ∧
    change.length = packet.length ∧ checksum (packet.xor change) = checksum packet ^^^ checksum change := by
  intro packet change
  have hPasses : verify packet = true := by decide +kernel
  have hFails : verify (packet.xor change) = false := by decide +kernel
  have hChecksum : checksum packet = 0xB1 := by decide +kernel
  obtain ⟨hVerify, hRemainder, hSum⟩ := passing_iff_codeword packet
  have hChanged : ¬ generator ∣ polynomial [2, 5, 7, 0x8B, 0xB1] := by
    intro hDivides
    have hPassed := (passing_iff_codeword (packet.xor change)).1.mpr ⟨by decide, hDivides⟩
    exact Bool.false_ne_true (hFails.symm.trans hPassed)
  rw [hChecksum] at hRemainder
  exact ⟨hPasses, (hVerify.mp hPasses).2, hFails, hChanged, hChecksum, hRemainder, rfl, hSum change rfl⟩

end Crc8

end Telemetry
