import PostfixSheet.Number.Arithmetic
import PostfixSheet.Proofs.Number.Tenths

/-! The signs of zeros. Printing drops the sign of a zero, so numbers are alike here
if they differ in nothing else. Sums, differences, products and rounding keep this
likeness; quotients keep it while the divisor is not a zero, whose sign would choose
between the two infinite values. -/
namespace PostfixSheet.Binary64

attribute [local instance (high)] instPowNat
attribute [local irreducible] oneUnits

variable {number left right other next : Binary64} {code : Fin magnitudeCount}

/-- A zero loses its sign. -/
def withoutZeroSign : Binary64 → Binary64
  | .finite negative code => .finite (negative && code.val != 0) code
  | number => number

/-- The same number, but for the sign of a zero. -/
def Alike (left right : Binary64) : Prop := left.withoutZeroSign = right.withoutZeroSign

theorem withoutZeroSign_finite (negative : Bool) (code : Fin magnitudeCount) :
    withoutZeroSign (.finite negative code) = .finite (negative && code.val != 0) code := rfl

theorem alike_refl (number : Binary64) : Alike number number := rfl

theorem withoutZeroSign_withoutZeroSign (number : Binary64) :
    number.withoutZeroSign.withoutZeroSign = number.withoutZeroSign := by
  cases number with
  | finite negative code => simp only [withoutZeroSign, Bool.and_assoc, Bool.and_self]
  | nan => rfl
  | infinite negative => rfl

theorem alike_withoutZeroSign (number : Binary64) : Alike number number.withoutZeroSign :=
  (withoutZeroSign_withoutZeroSign number).symm

theorem withoutZeroSign_zero (negative : Bool) : (zero negative).withoutZeroSign = zero false := by
  cases negative <;> rfl

theorem isZero_withoutZeroSign (number : Binary64) :
    number.withoutZeroSign.isZero = number.isZero := by
  cases number <;> rfl

theorem isFinite_withoutZeroSign (number : Binary64) :
    number.withoutZeroSign.isFinite = number.isFinite := by
  cases number <;> rfl

theorem Alike.isZero_eq (alike : Alike left right) : left.isZero = right.isZero := by
  rw [← isZero_withoutZeroSign left, alike, isZero_withoutZeroSign]

theorem Alike.isFinite_eq (alike : Alike left right) : left.isFinite = right.isFinite := by
  rw [← isFinite_withoutZeroSign left, alike, isFinite_withoutZeroSign]

/-- A magnitude of zero is no number of units with either sign. -/
theorem signed_withoutZeroSign (negative : Bool) (code : Fin magnitudeCount) :
    signed (negative && code.val != 0) (units code) = signed negative (units code) := by
  by_cases zero : code.val = 0
  · rw [zero, units_zero]
    cases negative <;> rfl
  · rw [bne_iff_ne.mpr zero, Bool.and_true]

/-- The value of a finite number in units of 2^-1074, where zeros of either sign are equal. -/
def amount? : Binary64 → Option Int
  | .finite negative code => some (signed negative (units code))
  | _ => none

theorem amount?_withoutZeroSign (number : Binary64) :
    number.withoutZeroSign.amount? = number.amount? := by
  cases number with
  | finite negative code =>
    rw [withoutZeroSign_finite, amount?, signed_withoutZeroSign, amount?]
  | nan => rfl
  | infinite negative => rfl

theorem round_zero (negative : Bool) {denominator : Nat} (positive : 0 < denominator) :
    round negative 0 denominator = zero negative := by
  have nothing : nearestCode 0 denominator = 0 := nearestCode_zero positive
  simp only [round, nothing]
  exact dif_pos (by decide)

theorem withoutZeroSign_neg (number : Binary64) :
    (-number).withoutZeroSign = (-number.withoutZeroSign).withoutZeroSign := by
  cases number with
  | finite negative code =>
    change Binary64.finite _ code = .finite _ code
    congr 1
    cases code.val != 0 <;> cases negative <;> rfl
  | nan => rfl
  | infinite negative => rfl

theorem withoutZeroSign_add (left right : Binary64) :
    (left + right).withoutZeroSign =
      (left.withoutZeroSign + right.withoutZeroSign).withoutZeroSign := by
  cases left with
  | finite negative code =>
    cases right with
    | finite other next =>
      change (add _ _).withoutZeroSign = (add _ _).withoutZeroSign
      simp only [add, withoutZeroSign_finite, signed_withoutZeroSign]
      split
      · rw [withoutZeroSign_zero, withoutZeroSign_zero]
      · rfl
    | nan => rfl
    | infinite other => rfl
  | nan => cases right <;> rfl
  | infinite negative => cases right <;> rfl

theorem withoutZeroSign_mul (left right : Binary64) :
    (left * right).withoutZeroSign =
      (left.withoutZeroSign * right.withoutZeroSign).withoutZeroSign := by
  cases left with
  | finite negative code =>
    cases right with
    | finite other next =>
      change (mul _ _).withoutZeroSign = (mul _ _).withoutZeroSign
      simp only [mul, withoutZeroSign_finite]
      by_cases product : code.val = 0 ∨ next.val = 0
      · have nothing : units code * units next = 0 := by
          rcases product with zero | zero
          · rw [zero, units_zero, Nat.zero_mul]
          · rw [zero, units_zero, Nat.mul_zero]
        rw [nothing, round_zero _ oneUnits_pos, round_zero _ oneUnits_pos, withoutZeroSign_zero,
          withoutZeroSign_zero]
      · obtain ⟨nonzero, other⟩ := not_or.mp product
        rw [bne_iff_ne.mpr nonzero, bne_iff_ne.mpr other, Bool.and_true, Bool.and_true]
    | nan => rfl
    | infinite other =>
      change (mul _ _).withoutZeroSign = (mul _ _).withoutZeroSign
      by_cases zero : code.val = 0 <;> simp [mul, withoutZeroSign, zero]
  | nan => cases right <;> rfl
  | infinite negative =>
    cases right with
    | finite other next =>
      change (mul _ _).withoutZeroSign = (mul _ _).withoutZeroSign
      by_cases zero : next.val = 0 <;> simp [mul, withoutZeroSign, zero]
    | nan => rfl
    | infinite other => rfl

/-- The sign of a divisor that is a zero would count. -/
theorem withoutZeroSign_div (left : Binary64) (nonzero : right.isZero = false) :
    (left / right).withoutZeroSign =
      (left.withoutZeroSign / right.withoutZeroSign).withoutZeroSign := by
  cases right with
  | finite other next =>
    have divisor : next.val ≠ 0 := by simpa [isZero] using nonzero
    have signedDivisor : withoutZeroSign (.finite other next) = .finite other next := by
      rw [withoutZeroSign, bne_iff_ne.mpr divisor, Bool.and_true]
    rw [signedDivisor]
    cases left with
    | finite negative code =>
      change (div _ _).withoutZeroSign = (div _ _).withoutZeroSign
      simp only [div, withoutZeroSign_finite, divisor, if_false]
      by_cases zero : code.val = 0
      · have positive : 0 < units next := units_zero ▸ units_lt (Nat.pos_of_ne_zero divisor)
        rw [zero, units_zero, Nat.zero_mul, round_zero _ positive, round_zero _ positive,
          withoutZeroSign_zero, withoutZeroSign_zero]
      · rw [bne_iff_ne.mpr zero, Bool.and_true]
    | nan => rfl
    | infinite negative => rfl
  | nan => cases left <;> rfl
  | infinite other =>
    cases left with
    | finite negative code =>
      change (zero _).withoutZeroSign = (zero _).withoutZeroSign
      rw [withoutZeroSign_zero, withoutZeroSign_zero]
    | nan => rfl
    | infinite negative => rfl

theorem withoutZeroSign_roundToTenth (number : Binary64) :
    number.roundToTenth.withoutZeroSign =
      number.withoutZeroSign.roundToTenth.withoutZeroSign := by
  cases number with
  | finite negative code =>
    simp only [withoutZeroSign_finite, roundToTenth_finite]
    by_cases zero : code.val = 0
    · have nothing : (tenthCode code != 0) = false := by
        rw [zero, isSettled_zero.tenthCode_eq, bne_self_eq_false]
      rw [nothing, Bool.and_false, Bool.and_false]
    · rw [bne_iff_ne.mpr zero, Bool.and_true]
  | nan => rfl
  | infinite negative => rfl

/-- A rounded number is rounded without the sign of a zero too. -/
theorem roundToTenth_withoutZeroSign (rounded : number.roundToTenth = number) :
    number.withoutZeroSign.roundToTenth = number.withoutZeroSign := by
  cases number with
  | finite negative code =>
    rw [roundToTenth_finite] at rounded
    injection rounded with _ same
    rw [withoutZeroSign_finite, roundToTenth_finite, same]
  | nan => rfl
  | infinite negative => rfl

theorem plainText_withoutZeroSign (number : Binary64) :
    number.withoutZeroSign.plainText = number.plainText := by
  cases number with
  | finite negative code =>
    simp only [plainText, withoutZeroSign]
    split
    · rfl
    · rename_i nonzero
      rw [bne_iff_ne.mpr nonzero, Bool.and_true]
  | nan => rfl
  | infinite negative => rfl

namespace Alike

variable (alike : Alike left right)
include alike

theorem neg : Alike (-left) (-right) := by
  rw [Alike, withoutZeroSign_neg, alike, ← withoutZeroSign_neg]

theorem add (alikeToo : Alike other next) : Alike (left + other) (right + next) := by
  rw [Alike, withoutZeroSign_add, alike, alikeToo, ← withoutZeroSign_add]

theorem sub (alikeToo : Alike other next) : Alike (left - other) (right - next) :=
  alike.add alikeToo.neg

theorem mul (alikeToo : Alike other next) : Alike (left * other) (right * next) := by
  rw [Alike, withoutZeroSign_mul, alike, alikeToo, ← withoutZeroSign_mul]

theorem div (alikeToo : Alike other next) (nonzero : other.isZero = false) :
    Alike (left / other) (right / next) := by
  rw [Alike, withoutZeroSign_div _ nonzero, alike, alikeToo,
    ← withoutZeroSign_div _ (alikeToo.isZero_eq ▸ nonzero)]

theorem roundToTenth : Alike left.roundToTenth right.roundToTenth := by
  rw [Alike, withoutZeroSign_roundToTenth, alike, ← withoutZeroSign_roundToTenth]

/-- Numbers that are alike are printed alike. -/
theorem text_eq : left.text = right.text := by
  rw [text, ← plainText_withoutZeroSign, alike.roundToTenth, plainText_withoutZeroSign, ← text]

end Alike

end PostfixSheet.Binary64
