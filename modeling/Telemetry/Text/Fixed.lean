/-! Numbers with one digit after the point, rounded exactly. -/
namespace Telemetry.Text

/-- Quotient rounded to the nearest whole number; a half goes to the even neighbour. -/
def roundDiv (numerator denominator : Nat) : Nat :=
  let quotient := numerator / denominator
  let twice := 2 * (numerator % denominator)
  if twice < denominator then quotient
  else if denominator < twice then quotient + 1
  else quotient + quotient % 2

theorem roundDiv_mul (q : Nat) {d : Nat} (h : 0 < d) : roundDiv (q * d) d = q := by
  simp [roundDiv, Nat.mul_div_cancel _ h, h]

/-- The rounded quotient is at most half a unit away. -/
theorem roundDiv_near (n : Nat) {d : Nat} (h : 0 < d) :
    2 * n ≤ (2 * roundDiv n d + 1) * d ∧ 2 * roundDiv n d * d ≤ 2 * n + d := by
  have split := Nat.div_add_mod n d
  have small := Nat.mod_lt n h
  have parity := Nat.mod_lt (n / d) (show 0 < 2 by decide)
  unfold roundDiv
  generalize n / d = q at split parity ⊢
  generalize n % d = r at split small ⊢
  subst split
  dsimp only
  split
  · constructor <;> grind
  · split
    · constructor <;> grind
    · rcases (by omega : q % 2 = 0 ∨ q % 2 = 1) with e | e <;> rw [e] <;> constructor <;> grind

/-- Tenths of a non-negative finite number: its significand, shifted by the exponent, over the 1075th
power of two. -/
def tenths (x : Float) : Nat :=
  let exponent := (x.toBits >>> 52 &&& 0x7FF).toNat
  let fraction := (x.toBits &&& 0xFFFFFFFFFFFFF).toNat
  let significand := if exponent = 0 then fraction else fraction + 0x10000000000000
  roundDiv ((10 * significand) <<< max exponent 1) (1 <<< 1075)

/-- A non-negative finite number with one digit after the point. -/
def oneDecimal (x : Float) : String :=
  (tenths x / 10).repr ++ "." ++ (tenths x % 10).repr

end Telemetry.Text
