import PostfixSheet.Number.Tenths
import PostfixSheet.Proofs.Number.Rounding

/-! Rounding to one fractional digit. A number is settled if some decimal with one
fractional digit reads as it; rounding gives a settled number, and a settled number
is not moved by rounding it again. Far below 2^52 the codes stand closer than the
tenths, so the tenth that reads as a magnitude is the nearest one to it. Further up
a magnitude has more room than the tenths, so the nearest tenth reads as it, but
for the room below a power of two, which is a whole number by then. -/
namespace PostfixSheet.Binary64

attribute [local instance (high)] instPowNat

-- The number of units in one is a name here: nothing is gained by computing it.
attribute [local irreducible] oneUnits

variable {code shift significand : Nat} {number : Binary64}

/-- Some decimal with one fractional digit reads as the magnitude with this code. -/
def IsSettled (code : Nat) : Prop := ∃ digits, decimalCode digits (-1) = code

/-- The code of a magnitude after rounding to one fractional digit. -/
def tenthCode (code : Nat) : Nat :=
  if wholeFrom ≤ units code then code else decimalCode (tenths (units code)) (-1)

theorem decimalCode_tenths (digits : Nat) :
    decimalCode digits (-1) = nearestCode (digits * oneUnits) 10 := by
  simp [decimalCode]

theorem decimalCode_zero_exponent (digits : Nat) :
    decimalCode digits 0 = nearestCode (digits * oneUnits) 1 := by
  simp [decimalCode]

theorem decimalCode_zero_digits (exponent : Int) : decimalCode 0 exponent = 0 := by
  rw [decimalCode, Nat.zero_mul, Nat.zero_mul, nearestCode_zero (Nat.pow_pos (by decide))]

theorem tenths_near (magnitude : Nat) :
    2 * (tenths magnitude * oneUnits) ≤ 20 * magnitude + oneUnits ∧
      20 * magnitude ≤ 2 * (tenths magnitude * oneUnits) + oneUnits := by
  have near := roundDiv_near (magnitude * 10) oneUnits_pos
  rw [tenths]
  omega

theorem tenths_whole (whole : Nat) : tenths (whole * oneUnits) = whole * 10 := by
  rw [tenths, Nat.mul_right_comm, roundDiv_mul_self _ oneUnits_pos]

section powers

theorem oneUnits_eq (low : shift ≤ 1074) : oneUnits = 2 ^ (1074 - shift) * 2 ^ shift := by
  rw [← Nat.pow_add, Nat.sub_add_cancel low, oneUnits]

theorem spacing_le (low : shift ≤ 1070) : 16 * 2 ^ shift ≤ oneUnits := by
  rw [oneUnits_eq (show shift ≤ 1074 by omega)]
  have room : 2 ^ 4 ≤ 2 ^ (1074 - shift) := Nat.pow_le_pow_right (by decide) (by omega)
  exact Nat.mul_le_mul_right _ room

theorem oneUnits_dvd_pow (high : 1074 ≤ shift) : oneUnits ∣ 2 ^ shift := by
  have power : oneUnits = 2 ^ (shift - (shift - 1074)) := by rw [Nat.sub_sub_self high, oneUnits]
  rw [power]
  exact Nat.pow_dvd_pow 2 (Nat.sub_le ..)

theorem le_spacing (high : 1071 ≤ shift) : oneUnits ≤ 8 * 2 ^ shift := by
  have whole : oneUnits ∣ 2 ^ (3 + shift) := oneUnits_dvd_pow (by omega)
  rw [Nat.pow_add] at whole
  exact Nat.le_of_dvd (Nat.mul_pos (by decide) (Nat.two_pow_pos _)) whole

end powers

/-- The code of 2^52. -/
def wholeCode : Nat := (1074 + 1) * fractionCount + 0

theorem wholeFrom_eq : wholeFrom = fractionCount * oneUnits := by
  rw [wholeFrom, fractionCount]

theorem units_wholeCode : units wholeCode = wholeFrom := by
  rw [wholeCode, units_of_exponent fractionCount_pos, Nat.add_zero, wholeFrom_eq, oneUnits]

/-- From 2^52 on every magnitude is a whole number. -/
theorem oneUnits_dvd_units (large : wholeFrom ≤ units code) : oneUnits ∣ units code := by
  obtain ⟨shift, significand, has⟩ := exists_significand code
  rw [has.units_eq] at large ⊢
  refine Nat.dvd_mul_left_of_dvd (oneUnits_dvd_pow ?_) _
  refine Nat.le_of_not_lt fun low => ?_
  have spacing : 2 * 2 ^ shift ≤ oneUnits := by
    rw [oneUnits_eq (show shift ≤ 1074 by omega)]
    have room : 2 ^ 1 ≤ 2 ^ (1074 - shift) := Nat.pow_le_pow_right (by decide) (by omega)
    exact Nat.mul_le_mul_right _ room
  have small : significand * 2 ^ shift < fractionCount * (2 * 2 ^ shift) := by
    rw [← Nat.mul_assoc, Nat.mul_comm fractionCount]
    exact Nat.mul_lt_mul_of_pos_right has.fits (Nat.two_pow_pos _)
  have room : fractionCount * (2 * 2 ^ shift) ≤ wholeFrom :=
    wholeFrom_eq ▸ Nat.mul_le_mul_left _ spacing
  omega

/-- A whole number is read from ten times as many tenths. -/
theorem decimalCode_of_whole {whole : Nat} (same : units code = oneUnits * whole) :
    decimalCode (whole * 10) (-1) = code := by
  rw [decimalCode_tenths, Nat.mul_right_comm, Nat.mul_comm whole, ← same]
  exact nearestCode_units_mul code (by decide)

theorem isSettled_of_whole (whole : oneUnits ∣ units code) : IsSettled code := by
  obtain ⟨quotient, same⟩ := whole
  exact ⟨quotient * 10, decimalCode_of_whole same⟩

theorem decimalCode_tenths_of_whole (whole : oneUnits ∣ units code) :
    decimalCode (tenths (units code)) (-1) = code := by
  obtain ⟨quotient, same⟩ := whole
  rw [same, Nat.mul_comm, tenths_whole]
  exact decimalCode_of_whole same

/-- The magnitude below a code is at most one spacing away, and it is one spacing away
except below a power of two. -/
theorem HasSignificand.units_pred (has : HasSignificand (code + 1) shift significand) :
    units (code + 1) ≤ units code + 2 ^ shift ∧
      (units (code + 1) = units code + 2 ^ shift ∨ significand = fractionCount) := by
  have same := has.code_eq
  have fits := has.fits
  by_cases inner : shift = 0 ∨ fractionCount < significand
  · have positive : 0 < significand := by
      rcases inner with zero | more
      · rw [zero, Nat.zero_mul] at same
        omega
      · omega
    have before : HasSignificand code shift (significand - 1) := ⟨by omega, by omega, by omega⟩
    have spaced := before.units_succ
    rw [before.units_eq, spaced, Nat.add_mul, Nat.one_mul]
    exact ⟨Nat.le_refl _, .inl rfl⟩
  · have edge : significand = fractionCount := by
      have leading := has.leading
      omega
    refine ⟨?_, .inr edge⟩
    cases shift with
    | zero => omega
    | succ shift =>
      have count := fractionCount_pos
      have before : HasSignificand code shift (2 * fractionCount - 1) := by
        refine ⟨?_, by omega, by omega⟩
        rw [Nat.add_mul] at same
        omega
      rw [before.units_succ, before.units_eq, Nat.add_mul, Nat.one_mul, Nat.pow_succ]
      omega

/-- What rounds to a code is at most half a spacing away from its magnitude. -/
theorem HasSignificand.near_of_nearestCode (has : HasSignificand code shift significand)
    {numerator denominator : Nat} (positive : 0 < denominator)
    (rounds : nearestCode numerator denominator = code) :
    2 * numerator ≤ (2 * units code + 2 ^ shift) * denominator ∧
      2 * units code * denominator ≤ 2 * numerator + 2 ^ shift * denominator := by
  constructor
  · have within := (nearestCode_le_iff positive code).mp (Nat.le_of_eq rounds)
    have next : midpoint code = 2 * units code + 2 ^ shift := by
      rw [midpoint, has.units_succ, Nat.add_mul significand, ← has.units_eq]
      omega
    rw [next] at within
    omega
  · cases code with
    | zero =>
      rw [units_zero]
      omega
    | succ code =>
      have beyond : ¬nearestCode numerator denominator ≤ code := by omega
      rw [nearestCode_le_iff positive] at beyond
      have gap : 2 * units (code + 1) ≤ midpoint code + 2 ^ shift := by
        have gap := has.units_pred.1
        rw [midpoint]
        omega
      have scaled := Nat.mul_le_mul_right denominator gap
      rw [Nat.add_mul] at scaled
      omega

theorem HasSignificand.near_of_reads (has : HasSignificand code shift significand)
    {digits : Nat} (reads : decimalCode digits (-1) = code) :
    2 * (digits * oneUnits) ≤ 20 * units code + 10 * 2 ^ shift ∧
      20 * units code ≤ 2 * (digits * oneUnits) + 10 * 2 ^ shift := by
  rw [decimalCode_tenths] at reads
  have near := has.near_of_nearestCode (by decide) reads
  omega

/-- Where codes stand closer than tenths, only one tenth reads as a code. -/
theorem tenths_of_reads (has : HasSignificand code shift significand) (low : shift ≤ 1070)
    {digits : Nat} (reads : decimalCode digits (-1) = code) : tenths (units code) = digits := by
  have near := tenths_near (units code)
  have close := has.near_of_reads reads
  have spacing := spacing_le low
  have positive := oneUnits_pos
  apply Nat.le_antisymm
  · exact le_of_mul_lt (show tenths (units code) * oneUnits < digits * oneUnits + oneUnits by omega)
  · exact le_of_mul_lt (show digits * oneUnits < tenths (units code) * oneUnits + oneUnits by omega)

/-- Where codes stand further apart than tenths, what is within half a tenth of a
magnitude reads as its code. Below a power of two there is half the room. -/
theorem HasSignificand.reads_of_near (has : HasSignificand code shift significand)
    (high : 1071 ≤ shift) (inner : significand ≠ fractionCount) {digits : Nat}
    (above : 2 * (digits * oneUnits) ≤ 20 * units code + oneUnits)
    (below : 20 * units code ≤ 2 * (digits * oneUnits) + oneUnits) :
    decimalCode digits (-1) = code := by
  have spacing := le_spacing high
  have positive : 0 < 2 ^ shift := Nat.two_pow_pos _
  rw [decimalCode_tenths]
  apply Nat.le_antisymm
  · rw [nearestCode_le_iff (by decide), midpoint, has.units_succ, Nat.add_mul significand,
      ← has.units_eq]
    omega
  · refine Nat.le_of_not_lt fun less => ?_
    cases code with
    | zero => exact absurd less (Nat.not_lt_zero _)
    | succ code =>
      have within := (nearestCode_le_iff (by decide) code).mp (Nat.le_of_lt_succ less)
      have gap := has.units_pred.2.resolve_right inner
      rw [midpoint] at within
      omega

/-- A power of two is a whole number by then. -/
theorem HasSignificand.whole_of_power (has : HasSignificand code shift fractionCount)
    (high : 1071 ≤ shift) : oneUnits ∣ units code := by
  have whole : oneUnits ∣ 2 ^ (52 + shift) := oneUnits_dvd_pow (by omega)
  rwa [Nat.pow_add, ← fractionCount, ← has.units_eq] at whole

theorem decimalCode_tenths_of_spaced (has : HasSignificand code shift significand)
    (high : 1071 ≤ shift) : decimalCode (tenths (units code)) (-1) = code := by
  have near := tenths_near (units code)
  by_cases edge : significand = fractionCount
  · subst edge
    exact decimalCode_tenths_of_whole (has.whole_of_power high)
  · exact has.reads_of_near high edge near.1 near.2

/-- The nearest tenth to a settled magnitude reads as that magnitude. -/
theorem IsSettled.decimalCode_tenths (settled : IsSettled code) :
    decimalCode (tenths (units code)) (-1) = code := by
  obtain ⟨digits, reads⟩ := settled
  obtain ⟨shift, significand, has⟩ := exists_significand code
  by_cases low : shift ≤ 1070
  · rw [tenths_of_reads has low reads, reads]
  · exact decimalCode_tenths_of_spaced has (by omega)

theorem IsSettled.tenthCode_eq (settled : IsSettled code) : tenthCode code = code := by
  unfold tenthCode
  split
  · rfl
  · exact settled.decimalCode_tenths

theorem isSettled_tenthCode (code : Nat) : IsSettled (tenthCode code) := by
  unfold tenthCode
  split
  · rename_i large
    exact isSettled_of_whole (oneUnits_dvd_units large)
  · exact ⟨_, rfl⟩

theorem isSettled_zero : IsSettled 0 := ⟨0, decimalCode_zero_digits _⟩

/-- Rounding to one digit does not pass a whole number from below. -/
theorem tenthCode_le_of_whole {limit : Nat} (whole : oneUnits ∣ units limit)
    (most : code ≤ limit) : tenthCode code ≤ limit := by
  unfold tenthCode
  split
  · exact most
  · obtain ⟨quotient, same⟩ := whole
    have near := tenths_near (units code)
    have bound := units_le most
    have least : tenths (units code) ≤ quotient * 10 := by
      apply le_of_mul_lt
      rw [Nat.mul_right_comm, Nat.mul_comm quotient, ← same]
      have positive := oneUnits_pos
      omega
    have exactly := decimalCode_of_whole same
    rw [decimalCode_tenths] at exactly ⊢
    rw [← exactly]
    exact nearestCode_mono (by decide) (by decide)
      (Nat.mul_le_mul_right _ (Nat.mul_le_mul_right _ least))

theorem tenthCode_le (code : Nat) : tenthCode code ≤ max code wholeCode := by
  by_cases small : code ≤ wholeCode
  · have whole : oneUnits ∣ units wholeCode := by
      rw [units_wholeCode, wholeFrom_eq]
      exact Nat.dvd_mul_left ..
    exact Nat.le_trans (tenthCode_le_of_whole whole small) (Nat.le_max_right ..)
  · have large : wholeFrom ≤ units code := by
      rw [← units_wholeCode]
      exact units_le (Nat.le_of_not_le small)
    rw [tenthCode, if_pos large]
    exact Nat.le_max_left ..

theorem tenthCode_lt (finite : code < magnitudeCount) : tenthCode code < magnitudeCount := by
  have bound := tenthCode_le code
  have whole : wholeCode < magnitudeCount := by decide
  omega

theorem roundToTenth_finite (negative : Bool) (code : Fin magnitudeCount) :
    roundToTenth (.finite negative code) =
      .finite negative ⟨tenthCode code, tenthCode_lt code.isLt⟩ := by
  have finite := tenthCode_lt code.isLt
  simp only [roundToTenth]
  by_cases large : wholeFrom ≤ units code
  · simp only [tenthCode, large, if_true]
  · rw [if_neg large]
    refine ofDecimal_of_reads ?_
    simp only [tenthCode, large, if_false]

theorem isFinite_roundToTenth : (roundToTenth number).isFinite = number.isFinite := by
  cases number with
  | finite negative code => rw [roundToTenth_finite]; rfl
  | nan => rfl
  | infinite negative => rfl

theorem exists_settled_of_isFinite (finite : number.isFinite = true) :
    ∃ negative code, roundToTenth number = .finite negative code ∧ IsSettled code := by
  cases number with
  | finite negative code => exact ⟨_, _, roundToTenth_finite .., isSettled_tenthCode code⟩
  | nan => contradiction
  | infinite negative => contradiction

theorem roundToTenth_roundToTenth (number : Binary64) :
    roundToTenth (roundToTenth number) = roundToTenth number := by
  cases number with
  | finite negative code =>
    simp only [roundToTenth_finite, (isSettled_tenthCode code).tenthCode_eq]
  | nan => rfl
  | infinite negative => rfl

end PostfixSheet.Binary64
