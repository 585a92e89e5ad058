import Telemetry.Wire.Crc8

/-! Remainders as polynomials over two elements: absorbing is linear, and a changed bit adds a power of x.
Every power is odd, and powers fewer than 127 places apart differ. -/
namespace Telemetry

/-- The bytes with one bit changed: bits count from the lowest of each byte, bytes from the first. -/
def Bytes.flip (bytes : Bytes) (bit : Nat) : Bytes :=
  bytes.modify (bit / 8) (· ^^^ 1 <<< UInt8.ofNat (bit % 8))

/-- The bytes with some bits changed, one after the other. -/
def Bytes.flips (bytes : Bytes) (bits : List Nat) : Bytes :=
  bits.foldl flip bytes

theorem Bytes.length_flip (bytes : Bytes) (bit : Nat) : (bytes.flip bit).length = bytes.length :=
  List.length_modify _ _ _

theorem Bytes.length_flips (bytes : Bytes) (bits : List Nat) :
    (bytes.flips bits).length = bytes.length := by
  induction bits generalizing bytes with
  | nil => rfl
  | cons bit rest ih => exact (ih (bytes.flip bit)).trans (bytes.length_flip bit)

namespace Crc8

theorem shift_eq (register : UInt8) :
    shift register = register <<< 1 ^^^ (if register.toBitVec.msb then 0x07 else 0) := by
  have h : ∀ n < 256, shift (UInt8.ofNat n) =
      UInt8.ofNat n <<< 1 ^^^ (if (UInt8.ofNat n).toBitVec.msb then 0x07 else 0) := by
    decide +kernel
  simpa using h register.toNat register.toNat_lt

theorem shift_xor (a b : UInt8) : shift (a ^^^ b) = shift a ^^^ shift b := by
  have h : (if (a.toBitVec.msb ^^ b.toBitVec.msb) = true then 0x07 else 0 : UInt8) =
      (if a.toBitVec.msb = true then 0x07 else 0) ^^^ (if b.toBitVec.msb = true then 0x07 else 0) := by
    cases a.toBitVec.msb <;> cases b.toBitVec.msb <;> rfl
  rw [shift_eq, shift_eq, shift_eq, UInt8.shiftLeft_xor, UInt8.toBitVec_xor, BitVec.msb_xor, h]
  ac_rfl

theorem shift_injective : Function.Injective shift := by
  intro a b h
  have hKernel : ∀ n < 256, shift (UInt8.ofNat n) = 0 → UInt8.ofNat n = 0 := by decide +kernel
  have hZero := hKernel (a ^^^ b).toNat (a ^^^ b).toNat_lt
  rw [UInt8.ofNat_toNat, shift_xor] at hZero
  exact UInt8.xor_eq_zero_iff.mp (hZero (UInt8.xor_eq_zero_iff.mpr h))

theorem shifts_xor (n : Nat) (a b : UInt8) : shifts n (a ^^^ b) = shifts n a ^^^ shifts n b := by
  induction n generalizing a b with
  | zero => rfl
  | succ n ih => rw [shifts, shifts, shifts, shift_xor, ih]

theorem shifts_add (m n : Nat) (register : UInt8) : shifts (m + n) register = shifts n (shifts m register) := by
  induction m generalizing register with
  | zero => rw [Nat.zero_add, shifts]
  | succ m ih => rw [Nat.succ_add, shifts, shifts, ih]

theorem shifts_injective (n : Nat) : Function.Injective (shifts n) := by
  induction n with
  | zero => exact fun _ _ h => h
  | succ n ih => exact ih.comp shift_injective

theorem absorb_xor (register change byte : UInt8) :
    absorb (register ^^^ change) byte = absorb register byte ^^^ shifts 8 change := by
  rw [absorb, absorb, ← shifts_xor]
  congr 1
  ac_rfl

/-- A change of the register is carried along by the bytes absorbed after it. -/
theorem foldl_absorb_xor (bytes : Bytes) (register change : UInt8) :
    bytes.foldl absorb (register ^^^ change) =
      bytes.foldl absorb register ^^^ shifts (8 * bytes.length) change := by
  induction bytes generalizing register change with
  | nil => rfl
  | cons byte rest ih =>
    rw [List.foldl_cons, List.foldl_cons, absorb_xor, ih, ← shifts_add, List.length_cons]
    congr 2
    omega

/-- The remainder of a power of x. -/
def power (exponent : Nat) : UInt8 :=
  shifts exponent 1

/-- The exponent that a bit of some bytes stands for once all are absorbed. -/
def place (length bit : Nat) : Nat :=
  8 * (length - bit / 8) + bit % 8

private theorem place_ne {length a b : Nat} (ha : a < 8 * length) (hb : b < 8 * length) (h : a ≠ b) :
    place length a ≠ place length b := by
  unfold place
  omega

private theorem place_lt_add {length a : Nat} (ha : a < 8 * length) (b : Nat) (hLength : 8 * length ≤ 127) :
    place length b < place length a + 127 := by
  unfold place
  omega

private theorem shifts_mask (n bit : Nat) :
    shifts n (1 <<< UInt8.ofNat (bit % 8)) = power (bit % 8 + n) := by
  have h : ∀ place < 8, (1 <<< UInt8.ofNat place : UInt8) = shifts place 1 := by decide +kernel
  rw [h (bit % 8) (Nat.mod_lt _ (by decide)), power, shifts_add]

private theorem foldl_absorb_flip (bytes : Bytes) (register : UInt8) {bit : Nat}
    (h : bit < 8 * bytes.length) :
    (bytes.flip bit).foldl absorb register =
      bytes.foldl absorb register ^^^ power (place bytes.length bit) := by
  induction bytes generalizing register bit with
  | nil => simp at h
  | cons byte rest ih =>
    rw [List.length_cons] at h
    by_cases hFirst : bit < 8
    · have hIndex : bit / 8 = 0 := Nat.div_eq_of_lt hFirst
      have hMask : absorb register (byte ^^^ 1 <<< UInt8.ofNat (bit % 8)) =
          absorb register byte ^^^ power (bit % 8 + 8) := by
        rw [← shifts_mask, ← absorb_xor, absorb, absorb]
        congr 1
        ac_rfl
      rw [Bytes.flip, hIndex, List.modify_zero_cons, List.foldl_cons, List.foldl_cons, hMask,
        foldl_absorb_xor, power, ← shifts_add, place, hIndex, power, List.length_cons]
      congr 2
      omega
    · obtain ⟨later, rfl⟩ := Nat.exists_eq_add_of_le (Nat.le_of_not_lt hFirst)
      have hIndex : (8 + later) / 8 = later / 8 + 1 := by omega
      have hBit : (8 + later) % 8 = later % 8 := by omega
      have hRest : byte :: Bytes.flip rest later = Bytes.flip (byte :: rest) (8 + later) := by
        rw [Bytes.flip, Bytes.flip, hIndex, hBit, List.modify_succ_cons]
      rw [← hRest, List.foldl_cons, List.foldl_cons, ih _ (by omega), place, place, hIndex, hBit,
        List.length_cons, Nat.add_sub_add_right]

theorem remainder_flip {bytes : Bytes} {bit : Nat} (h : bit < 8 * bytes.length) :
    remainder (bytes.flip bit) = remainder bytes ^^^ power (place bytes.length bit) :=
  foldl_absorb_flip bytes 0 h

/-- Whether an odd number of bits is set: the value at x = 1, where the generator is zero. -/
def odd (register : UInt8) : Bool :=
  (List.range 8).foldr (fun place rest => register.toBitVec.getLsbD place ^^ rest) false

theorem odd_xor (a b : UInt8) : odd (a ^^^ b) = (odd a ^^ odd b) := by
  unfold odd
  induction List.range 8 with
  | nil => rfl
  | cons place rest ih =>
    rw [List.foldr_cons, List.foldr_cons, List.foldr_cons, ih, UInt8.toBitVec_xor, BitVec.getLsbD_xor]
    simp only [Bool.xor_assoc, Bool.xor_left_comm]

theorem odd_shift (register : UInt8) : odd (shift register) = odd register := by
  have h : ∀ n < 256, odd (shift (UInt8.ofNat n)) = odd (UInt8.ofNat n) := by decide +kernel
  simpa using h register.toNat register.toNat_lt

theorem odd_power (exponent : Nat) : odd (power exponent) = true := by
  have h (register : UInt8) : odd (shifts exponent register) = odd register := by
    induction exponent generalizing register with
    | zero => rfl
    | succ n ih => rw [shifts, ih, odd_shift]
  exact h 1

/-- The powers of x repeat only after 127 places. -/
theorem power_ne {low high : Nat} (h : low < high) (hNear : high < low + 127) : power low ≠ power high := by
  obtain ⟨distance, rfl⟩ := Nat.exists_eq_add_of_le (Nat.succ_le_of_lt h)
  have hOrder : ∀ n < 126, shifts (n + 1) 1 ≠ 1 := by decide +kernel
  intro hEq
  have hSplit : power (low.succ + distance) = shifts low (shifts (distance + 1) 1) := by
    rw [power, ← shifts_add]
    congr 1
    omega
  exact hOrder distance (by omega) (shifts_injective low (hEq.trans hSplit)).symm

/-- One, two or three changed bits among the first 127 always show in the remainder. -/
theorem remainder_flips_ne {bytes : Bytes} {bits : List Nat} (hLength : 8 * bytes.length ≤ 127)
    (hDistinct : bits.Nodup) (hWithin : ∀ bit ∈ bits, bit < 8 * bytes.length) (hSome : bits ≠ [])
    (hFew : bits.length ≤ 3) : remainder (bytes.flips bits) ≠ remainder bytes := by
  match bits with
  | [a] =>
    rw [Bytes.flips, List.foldl_cons, List.foldl_nil, remainder_flip (hWithin a (by simp))]
    intro h
    simpa [odd_xor, odd_power] using congrArg odd h
  | [a, b] =>
    have hNe : a ≠ b := by simpa using hDistinct
    have ha := hWithin a (by simp)
    have hb := hWithin b (by simp)
    rw [Bytes.flips, List.foldl_cons, List.foldl_cons, List.foldl_nil,
      remainder_flip (by rwa [Bytes.length_flip]), remainder_flip ha, Bytes.length_flip, UInt8.xor_assoc]
    intro h
    have hEq : power (place bytes.length a) = power (place bytes.length b) :=
      UInt8.xor_eq_zero_iff.mp ((UInt8.xor_right_inj _).mp (h.trans UInt8.xor_zero.symm))
    rcases Nat.lt_or_gt_of_ne (place_ne ha hb hNe) with hLow | hHigh
    · exact power_ne hLow (place_lt_add ha b hLength) hEq
    · exact power_ne hHigh (place_lt_add hb a hLength) hEq.symm
  | [a, b, c] =>
    have ha := hWithin a (by simp)
    have hb := hWithin b (by simp)
    have hc := hWithin c (by simp)
    rw [Bytes.flips, List.foldl_cons, List.foldl_cons, List.foldl_cons, List.foldl_nil,
      remainder_flip (by rwa [Bytes.length_flip, Bytes.length_flip]),
      remainder_flip (by rwa [Bytes.length_flip]), remainder_flip ha]
    intro h
    simpa [odd_xor, odd_power] using congrArg odd h

end Crc8

end Telemetry
