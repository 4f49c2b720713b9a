import PostfixSheet.Number.Binary64

/-! Rounding an exact quotient to the nearest binary64 number, an exact half to
the neighbour with the even code. The quotient counts units of 2^-1074. Within
one power of two the codes are evenly spaced, so one integer division finds the
code; a carry into the next power of two gives that power's first code. A code
past the finite ones stands for an infinite result. -/
namespace PostfixSheet.Binary64

attribute [local instance (high)] instPowNat

/-- The integer nearest to a quotient, an exact half to the even one. -/
def roundDiv (numerator denominator : Nat) : Nat :=
  let quotient := numerator / denominator
  let rest := numerator % denominator
  if 2 * rest < denominator ∨ 2 * rest = denominator ∧ quotient % 2 = 0 then quotient
  else quotient + 1

/-- The code nearest to `numerator / denominator` units. The shift is the
number of low bits that a magnitude of this size cannot hold. -/
def nearestCode (numerator denominator : Nat) : Nat :=
  let shift := (numerator / denominator).log2 - 52
  shift * fractionCount + roundDiv numerator (denominator * 2 ^ shift)

def round (negative : Bool) (numerator denominator : Nat) : Binary64 :=
  if h : nearestCode numerator denominator < magnitudeCount then .finite negative ⟨_, h⟩
  else .infinite negative

/-- The code nearest to the decimal `digits * 10 ^ exponent`. -/
def decimalCode (digits : Nat) (exponent : Int) : Nat :=
  nearestCode (digits * 10 ^ exponent.toNat * oneUnits) (10 ^ (-exponent).toNat)

def ofDecimal (negative : Bool) (digits : Nat) (exponent : Int) : Binary64 :=
  round negative (digits * 10 ^ exponent.toNat * oneUnits) (10 ^ (-exponent).toNat)

theorem roundDiv_near (numerator : Nat) {denominator : Nat} (positive : 0 < denominator) :
    2 * (roundDiv numerator denominator * denominator) ≤ 2 * numerator + denominator ∧
      2 * numerator ≤ 2 * (roundDiv numerator denominator * denominator) + denominator := by
  have split : denominator * (numerator / denominator) + numerator % denominator = numerator :=
    Nat.div_add_mod numerator denominator
  have below : numerator % denominator < denominator := Nat.mod_lt _ positive
  have comm : numerator / denominator * denominator = denominator * (numerator / denominator) :=
    Nat.mul_comm ..
  simp only [roundDiv]
  split
  · rename_i low
    rw [comm]
    omega
  · rename_i high
    rw [Nat.add_mul, comm]
    omega

theorem roundDiv_mul_self (quotient : Nat) {denominator : Nat} (positive : 0 < denominator) :
    roundDiv (quotient * denominator) denominator = quotient := by
  simp [roundDiv, Nat.mul_div_cancel _ positive, positive]

end PostfixSheet.Binary64
