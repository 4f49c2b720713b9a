import PostfixSheet.Number.Rounding

/-! Rounding to the nearest code, told by midpoints. A code's magnitude is a
significand times a power of two, and the magnitudes grow strictly with the codes.
A quotient is rounded to a code or to a lower one exactly if it lies below the
midpoint between that code's magnitude and the next one, or on it if the code is
even. From this alone follows that rounding keeps the order of quotients, does not
depend on how a quotient is written, and leaves a magnitude where it is. -/
namespace PostfixSheet.Binary64

attribute [local instance (high)] instPowNat

variable {numerator denominator other divisor code shift significand : Nat}

theorem fractionCount_pos : 0 < fractionCount := by decide

theorem even_fractionCount : fractionCount % 2 = 0 := by decide

theorem oneUnits_pos : 0 < oneUnits := by
  unfold oneUnits
  exact Nat.two_pow_pos 1074

/-- Multiples are in order if one is not a whole step above the other. -/
theorem le_of_mul_lt {low high step : Nat} (near : low * step < high * step + step) :
    low ≤ high := by
  rw [← Nat.succ_mul] at near
  exact Nat.le_of_lt_succ (Nat.lt_of_mul_lt_mul_right near)

/-- The code counts up to a power of two and then along the magnitudes above it. -/
structure HasSignificand (code shift significand : Nat) : Prop where
  code_eq : code = shift * fractionCount + significand
  leading : shift = 0 ∨ fractionCount ≤ significand
  fits : significand < 2 * fractionCount

theorem exists_significand (code : Nat) :
    ∃ shift significand, HasSignificand code shift significand := by
  have split : fractionCount * (code / fractionCount) + code % fractionCount = code :=
    Nat.div_add_mod code fractionCount
  have below : code % fractionCount < fractionCount := Nat.mod_lt _ fractionCount_pos
  cases exponent : code / fractionCount with
  | zero =>
    refine ⟨0, code % fractionCount, ?_, .inl rfl, by omega⟩
    rw [exponent] at split
    omega
  | succ shift =>
    refine ⟨shift, fractionCount + code % fractionCount, ?_, .inr (by omega), by omega⟩
    rw [exponent, Nat.mul_succ, Nat.mul_comm] at split
    omega

theorem units_of_lt (small : code < fractionCount) : units code = code := by
  have exponent : code / fractionCount = 0 := Nat.div_eq_of_lt small
  simp only [units, exponent, if_true, Nat.mod_eq_of_lt small]

theorem units_of_exponent {fraction : Nat} (small : fraction < fractionCount) (shift : Nat) :
    units ((shift + 1) * fractionCount + fraction) = (fractionCount + fraction) * 2 ^ shift := by
  have exponent : ((shift + 1) * fractionCount + fraction) / fractionCount = shift + 1 := by
    rw [Nat.mul_comm, Nat.mul_add_div fractionCount_pos, Nat.div_eq_of_lt small, Nat.add_zero]
  have rest : ((shift + 1) * fractionCount + fraction) % fractionCount = fraction := by
    rw [Nat.mul_comm, Nat.mul_add_mod, Nat.mod_eq_of_lt small]
  simp only [units, exponent, rest, Nat.add_one_ne_zero, if_false, Nat.add_sub_cancel]

/-- The magnitudes from one power of two to the next, both included. -/
theorem units_spaced (leading : shift = 0 ∨ fractionCount ≤ significand)
    (fits : significand ≤ 2 * fractionCount) :
    units (shift * fractionCount + significand) = significand * 2 ^ shift := by
  by_cases small : significand < fractionCount
  · obtain rfl : shift = 0 := leading.resolve_right (Nat.not_le.mpr small)
    rw [Nat.zero_mul, Nat.zero_add, units_of_lt small, Nat.pow_zero, Nat.mul_one]
  · by_cases carried : significand = 2 * fractionCount
    · have next : shift * fractionCount + significand = (shift + 1 + 1) * fractionCount + 0 := by
        rw [carried, Nat.add_mul (shift + 1), Nat.add_mul shift]
        omega
      rw [next, units_of_exponent fractionCount_pos, carried, Nat.pow_succ, Nat.add_zero,
        Nat.mul_comm (2 ^ shift), ← Nat.mul_assoc, Nat.mul_comm fractionCount]
    · have same : shift * fractionCount + significand =
          (shift + 1) * fractionCount + (significand - fractionCount) := by
        rw [Nat.add_mul]
        omega
      rw [same, units_of_exponent (by omega), Nat.add_sub_cancel' (Nat.not_lt.mp small)]

theorem HasSignificand.units_eq (has : HasSignificand code shift significand) :
    units code = significand * 2 ^ shift := by
  rw [has.code_eq, units_spaced has.leading (Nat.le_of_lt has.fits)]

theorem HasSignificand.units_succ (has : HasSignificand code shift significand) :
    units (code + 1) = (significand + 1) * 2 ^ shift := by
  have fits : significand + 1 ≤ 2 * fractionCount := has.fits
  rw [has.code_eq, Nat.add_assoc, units_spaced (by have := has.leading; omega) fits]

theorem units_lt_succ (code : Nat) : units code < units (code + 1) := by
  obtain ⟨shift, significand, has⟩ := exists_significand code
  rw [has.units_eq, has.units_succ]
  exact Nat.mul_lt_mul_of_pos_right (Nat.lt_succ_self _) (Nat.two_pow_pos _)

theorem units_lt {low high : Nat} (less : low < high) : units low < units high := by
  induction high with
  | zero => contradiction
  | succ high ih =>
    rcases Nat.lt_succ_iff_lt_or_eq.mp less with before | rfl
    · exact Nat.lt_trans (ih before) (units_lt_succ high)
    · exact units_lt_succ low

theorem units_le {low high : Nat} (least : low ≤ high) : units low ≤ units high := by
  rcases Nat.lt_or_eq_of_le least with less | rfl
  · exact Nat.le_of_lt (units_lt less)
  · exact Nat.le_refl _

theorem units_zero : units 0 = 0 := units_of_lt fractionCount_pos

/-- Twice the midpoint between a code's magnitude and the next magnitude. -/
def midpoint (code : Nat) : Nat := units code + units (code + 1)

theorem HasSignificand.midpoint_eq (has : HasSignificand code shift significand) :
    midpoint code = (2 * significand + 1) * 2 ^ shift := by
  rw [midpoint, has.units_eq, has.units_succ, ← Nat.add_mul]
  congr 1
  omega

/-- A quotient rounds to an integer or below it if it lies below the midpoint above
the integer, or on it if the integer is even. -/
theorem roundDiv_le_iff (positive : 0 < denominator) (integer : Nat) :
    roundDiv numerator denominator ≤ integer ↔
      2 * numerator < (2 * integer + 1) * denominator ∨
        2 * numerator = (2 * integer + 1) * denominator ∧ integer % 2 = 0 := by
  have split : denominator * (numerator / denominator) + numerator % denominator = numerator :=
    Nat.div_add_mod numerator denominator
  have below : numerator % denominator < denominator := Nat.mod_lt _ positive
  have gate : (2 * integer + 1) * denominator = 2 * (denominator * integer) + denominator := by
    rw [Nat.add_mul, Nat.one_mul, Nat.mul_assoc, Nat.mul_comm integer]
  rw [gate]
  simp only [roundDiv]
  rcases Nat.lt_trichotomy (numerator / denominator) integer with less | same | more
  · have room : denominator * (numerator / denominator + 1) ≤ denominator * integer :=
      Nat.mul_le_mul_left _ less
    rw [Nat.mul_succ] at room
    split <;> omega
  · rw [same] at split ⊢
    split <;> omega
  · have room : denominator * (integer + 1) ≤ denominator * (numerator / denominator) :=
      Nat.mul_le_mul_left _ more
    rw [Nat.mul_succ] at room
    split <;> omega

/-- The low bits that are given up leave a significand that fits, and no more bits are
given up than need be. -/
theorem significand_bounds (numerator : Nat) (positive : 0 < denominator) :
    let shift := (numerator / denominator).log2 - 52
    numerator < 2 * fractionCount * (denominator * 2 ^ shift) ∧
      (shift = 0 ∨ fractionCount * (denominator * 2 ^ shift) ≤ numerator) := by
  intro shift
  have powers : 2 * fractionCount * 2 ^ shift = 2 ^ (53 + shift) := by
    rw [Nat.pow_add]
    rfl
  constructor
  · have fits : numerator / denominator < 2 ^ (53 + shift) := by
      refine Nat.lt_of_lt_of_le Nat.lt_log2_self ?_
      exact Nat.pow_le_pow_right (by decide) (by omega)
    have bound := (Nat.div_lt_iff_lt_mul positive).mp fits
    rwa [← powers, Nat.mul_assoc, Nat.mul_comm (2 ^ shift)] at bound
  · by_cases unshifted : shift = 0
    · exact .inl unshifted
    · right
      have nonzero : numerator / denominator ≠ 0 := by
        intro zero
        simp [shift, zero] at unshifted
      have least : 2 ^ (52 + shift) ≤ numerator / denominator := by
        refine Nat.le_trans ?_ (Nat.log2_self_le nonzero)
        exact Nat.pow_le_pow_right (by decide) (by omega)
      have bound := (Nat.le_div_iff_mul_le positive).mp least
      rwa [Nat.pow_add, Nat.mul_assoc, Nat.mul_comm (2 ^ shift)] at bound

/-- Codes below a power of two have their midpoints below the power. -/
theorem midpoint_lt_of_below (less : code < shift * fractionCount + fractionCount) :
    midpoint code < 2 * (fractionCount * 2 ^ shift) := by
  have power : units (shift * fractionCount + fractionCount) = fractionCount * 2 ^ shift :=
    units_spaced (.inr (Nat.le_refl _)) (by omega)
  have first : units code < fractionCount * 2 ^ shift := power ▸ units_lt less
  have second : units (code + 1) ≤ fractionCount * 2 ^ shift := power ▸ units_le less
  rw [midpoint]
  omega

/-- From a power of two on the midpoints are above the power. -/
theorem le_midpoint_of_above (most : shift * fractionCount + 2 * fractionCount ≤ code) :
    2 * (2 * fractionCount * 2 ^ shift) ≤ midpoint code := by
  have power : units (shift * fractionCount + 2 * fractionCount) =
      2 * fractionCount * 2 ^ shift := units_spaced (by omega) (Nat.le_refl _)
  have first : 2 * fractionCount * 2 ^ shift ≤ units code := power ▸ units_le most
  have second := units_lt_succ code
  rw [midpoint]
  omega

/-- Between two powers of two the codes count the significands. -/
theorem hasSignificand_between (least : shift = 0 ∨ shift * fractionCount + fractionCount ≤ code)
    (less : code < shift * fractionCount + 2 * fractionCount) :
    ∃ significand, HasSignificand code shift significand ∧ significand % 2 = code % 2 := by
  have base : shift * fractionCount ≤ code := by
    rcases least with zero | least
    · rw [zero, Nat.zero_mul]
      exact Nat.zero_le _
    · omega
  have even : shift * fractionCount % 2 = 0 := by
    rw [Nat.mul_mod, even_fractionCount, Nat.mul_zero, Nat.zero_mod]
  refine ⟨code - shift * fractionCount, ⟨?_, ?_, ?_⟩, ?_⟩
  all_goals omega

/-- A quotient rounds to a code or below it if it lies below the midpoint above the
code's magnitude, or on it if the code is even. -/
theorem nearestCode_le_iff (positive : 0 < denominator) (code : Nat) :
    nearestCode numerator denominator ≤ code ↔
      2 * numerator < midpoint code * denominator ∨
        2 * numerator = midpoint code * denominator ∧ code % 2 = 0 := by
  obtain ⟨above, least⟩ := significand_bounds numerator positive
  simp only [nearestCode]
  generalize (numerator / denominator).log2 - 52 = shift at above least ⊢
  generalize grid : denominator * 2 ^ shift = spacing at above least ⊢
  have spacingPositive : 0 < spacing := grid ▸ Nat.mul_pos positive (Nat.two_pow_pos _)
  have scaled : ∀ factor, factor * 2 ^ shift * denominator = factor * spacing := by
    intro factor
    rw [← grid, Nat.mul_comm denominator, Nat.mul_assoc]
  by_cases low : code < shift * fractionCount + fractionCount ∧ shift ≠ 0
  · -- The code lies below the power of two that the quotient reaches.
    have reached := least.resolve_left low.2
    have rounded : ¬roundDiv numerator spacing ≤ fractionCount - 1 := by
      rw [roundDiv_le_iff spacingPositive]
      have short : (2 * (fractionCount - 1) + 1) * spacing + spacing =
          2 * (fractionCount * spacing) := by
        rw [← Nat.succ_mul, ← Nat.mul_assoc]
        rfl
      omega
    have under := Nat.mul_lt_mul_of_pos_right (midpoint_lt_of_below low.1) positive
    rw [Nat.mul_assoc, scaled] at under
    omega
  · by_cases high : shift * fractionCount + 2 * fractionCount ≤ code
    · -- The code lies above every magnitude that the quotient can round to.
      have atMost : roundDiv numerator spacing ≤ 2 * fractionCount := by
        rw [roundDiv_le_iff spacingPositive]
        left
        rw [Nat.add_mul, Nat.mul_assoc]
        omega
      have beyond := Nat.mul_le_mul_right denominator (le_midpoint_of_above high)
      rw [Nat.mul_assoc, scaled] at beyond
      omega
    · obtain ⟨significand, has, parity⟩ :=
        hasSignificand_between (show shift = 0 ∨ _ by omega) (Nat.lt_of_not_le high)
      have same := has.code_eq
      rw [has.midpoint_eq, scaled, ← parity, ← roundDiv_le_iff spacingPositive]
      omega

theorem nearestCode_mono (positive : 0 < denominator) (isPositive : 0 < divisor)
    (low : numerator * divisor ≤ other * denominator) :
    nearestCode numerator denominator ≤ nearestCode other divisor := by
  rw [nearestCode_le_iff positive]
  have within := (nearestCode_le_iff isPositive _).mp (Nat.le_refl (nearestCode other divisor))
  generalize nearestCode other divisor = code at within ⊢
  -- Both sides are compared after multiplication by both denominators.
  have crossed : midpoint code * divisor * denominator = midpoint code * denominator * divisor :=
    Nat.mul_right_comm ..
  rcases within with below | ⟨onIt, even⟩
  · left
    have scaled := Nat.mul_lt_mul_of_pos_right below positive
    rw [crossed, Nat.mul_assoc] at scaled
    refine Nat.lt_of_mul_lt_mul_right (Nat.lt_of_le_of_lt ?_ scaled)
    rw [Nat.mul_assoc]
    exact Nat.mul_le_mul_left 2 low
  · have scaled := congrArg (· * denominator) onIt
    simp only [crossed, Nat.mul_assoc 2] at scaled
    have bound : 2 * numerator * divisor ≤ midpoint code * denominator * divisor := by
      rw [← scaled, Nat.mul_assoc]
      exact Nat.mul_le_mul_left 2 low
    rcases Nat.lt_or_eq_of_le (Nat.le_of_mul_le_mul_right bound isPositive) with below | same
    · exact .inl below
    · exact .inr ⟨same, even⟩

theorem nearestCode_congr (positive : 0 < denominator) (isPositive : 0 < divisor)
    (same : numerator * divisor = other * denominator) :
    nearestCode numerator denominator = nearestCode other divisor :=
  Nat.le_antisymm (nearestCode_mono positive isPositive (Nat.le_of_eq same))
    (nearestCode_mono isPositive positive (Nat.le_of_eq same.symm))

theorem nearestCode_units_mul (code : Nat) (positive : 0 < denominator) :
    nearestCode (units code * denominator) denominator = code := by
  apply Nat.le_antisymm
  · rw [nearestCode_le_iff positive]
    left
    rw [← Nat.mul_assoc]
    refine Nat.mul_lt_mul_of_pos_right ?_ positive
    have next := units_lt_succ code
    rw [midpoint]
    omega
  · refine Nat.le_of_not_lt fun less => ?_
    cases code with
    | zero => exact absurd less (Nat.not_lt_zero _)
    | succ code =>
      have within := (nearestCode_le_iff positive code).mp (Nat.le_of_lt_succ less)
      have under : midpoint code * denominator < 2 * (units (code + 1) * denominator) := by
        rw [← Nat.mul_assoc]
        refine Nat.mul_lt_mul_of_pos_right ?_ positive
        have next := units_lt_succ code
        rw [midpoint]
        omega
      omega

theorem nearestCode_units (code : Nat) : nearestCode (units code) 1 = code := by
  have same := nearestCode_units_mul code Nat.one_pos
  rwa [Nat.mul_one] at same

theorem nearestCode_zero (positive : 0 < denominator) : nearestCode 0 denominator = 0 := by
  have same := nearestCode_units_mul 0 positive
  rwa [units_zero, Nat.zero_mul] at same

/-- A decimal that reads as a finite code is that number, with either sign. -/
theorem ofDecimal_of_reads {negative : Bool} {digits : Nat} {exponent : Int}
    {code : Fin magnitudeCount} (reads : decimalCode digits exponent = code) :
    ofDecimal negative digits exponent = .finite negative code := by
  unfold decimalCode at reads
  have finite := code.isLt
  rw [← reads] at finite
  rw [ofDecimal, round, dif_pos finite]
  congr

end PostfixSheet.Binary64
