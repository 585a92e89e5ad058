/-! Arithmetic in words that says when it leaves them: each operation has its value among the numbers, or none. -/
namespace Telemetry

namespace Checked

variable {width : Nat}

/-- A difference of words, unless it is below zero. -/
def sub (a b : BitVec width) : Option (BitVec width) :=
  if BitVec.usubOverflow a b then none else some (a - b)

/-- A product of words, unless it does not fit. -/
def mul (a b : BitVec width) : Option (BitVec width) :=
  if BitVec.umulOverflow a b then none else some (a * b)

/-- A sum of words, unless it does not fit. -/
def add (a b : BitVec width) : Option (BitVec width) :=
  if BitVec.uaddOverflow a b then none else some (a + b)

/-- A word of fewer bits, unless that loses some of it. -/
def narrow (fewer : Nat) (a : BitVec width) : Option (BitVec fewer) :=
  if (a.setWidth fewer).toNat = a.toNat then some (a.setWidth fewer) else none

theorem exists_sub {a b : BitVec width} (h : ¬ BitVec.usubOverflow a b) :
    ∃ difference, sub a b = some difference ∧ difference.toNat = a.toNat - b.toNat :=
  ⟨a - b, if_neg h, BitVec.toNat_sub_of_not_usubOverflow h⟩

theorem exists_mul {a b : BitVec width} (h : ¬ BitVec.umulOverflow a b) :
    ∃ product, mul a b = some product ∧ product.toNat = a.toNat * b.toNat :=
  ⟨a * b, if_neg h, BitVec.toNat_mul_of_not_umulOverflow h⟩

theorem exists_add {a b : BitVec width} (h : ¬ BitVec.uaddOverflow a b) :
    ∃ sum, add a b = some sum ∧ sum.toNat = a.toNat + b.toNat :=
  ⟨a + b, if_neg h, BitVec.toNat_add_of_not_uaddOverflow h⟩

theorem exists_narrow (fewer : Nat) {a : BitVec width} (h : (a.setWidth fewer).toNat = a.toNat) :
    ∃ word, narrow fewer a = some word ∧ word.toNat = a.toNat :=
  ⟨a.setWidth fewer, if_pos h, h⟩

end Checked

end Telemetry
