import PostfixSheet.Proofs.Number.Shortest

/-! The tenths that are shown. The shortest digits of a rounded magnitude come to a
number of tenths. Up to 2^49 only one number of tenths reads as a magnitude, so these
are the tenths that it was rounded to. From there to 2^52 a magnitude is a multiple of
an eighth and several tenths read as it; rounding does not move it, and of the tenths
beside it the shortest digits are the nearer ones, and the upper ones if both are
equally near. Rounding takes the even ones then. The two differ on an exact quarter
and nowhere else. -/
namespace PostfixSheet

attribute [local instance (high)] instPowNat

attribute [local irreducible] Binary64.oneUnits

namespace Binary64
open Decimal

variable {code shift significand magnitude digits more limit places : Nat}

/-- The number 2^49, in units of 2^-1074: from here on numbers stand further apart than
tenths. -/
def coarseFrom : Nat := 2 ^ (49 : Nat) * oneUnits

def coarseCode : Nat := (1071 + 1) * fractionCount + 0

section spacing

theorem oneUnits_split (sum : places + shift = 1074) : oneUnits = 2 ^ places * 2 ^ shift := by
  rw [oneUnits_eq (show shift ≤ 1074 by omega), ← sum, Nat.add_sub_cancel]

theorem units_of_power (sum : 3 + shift = 1074) :
    units ((shift + 1) * fractionCount + 0) = coarseFrom := by
  have power : 2 ^ (49 : Nat) * 2 ^ (3 : Nat) = fractionCount := by decide
  rw [units_of_exponent fractionCount_pos, Nat.add_zero, coarseFrom, oneUnits_split sum,
    ← Nat.mul_assoc, power]

theorem units_coarseCode : units coarseCode = coarseFrom := units_of_power rfl

theorem coarse_iff : coarseCode ≤ code ↔ coarseFrom ≤ units code := by
  rw [← units_coarseCode]
  constructor
  · exact units_le
  · intro least
    exact Nat.le_of_not_lt fun less => Nat.not_lt_of_le least (units_lt less)

theorem HasSignificand.le_shift (has : HasSignificand code shift significand)
    (least : (limit + 1) * fractionCount ≤ code) : limit ≤ shift := by
  have same := has.code_eq
  have fits := has.fits
  rw [Nat.add_mul, Nat.one_mul] at least
  exact le_of_mul_lt
    (show limit * fractionCount < shift * fractionCount + fractionCount by omega)

theorem HasSignificand.shift_le (has : HasSignificand code shift significand)
    (less : code < (limit + 2) * fractionCount) : shift ≤ limit := by
  have same := has.code_eq
  rcases has.leading with rfl | leading
  · exact Nat.zero_le _
  · rw [Nat.add_mul] at less
    exact le_of_mul_lt
      (show shift * fractionCount < limit * fractionCount + fractionCount by omega)

/-- The next magnitude is no further away than a power of two allows. -/
theorem units_succ_le (sum : places + limit = 1074) (low : code < (limit + 2) * fractionCount) :
    2 ^ places * units (code + 1) ≤ 2 ^ places * units code + oneUnits := by
  obtain ⟨shift, significand, has⟩ := exists_significand code
  have spacing : 2 ^ shift ≤ 2 ^ limit :=
    Nat.pow_le_pow_right (by decide) (has.shift_le low)
  rw [oneUnits_split sum, ← Nat.mul_add, has.units_succ, has.units_eq, Nat.add_mul, Nat.one_mul]
  exact Nat.mul_le_mul_left _ (Nat.add_le_add_left spacing _)

theorem exists_eighths (sum : 3 + limit = 1074) (coarse : (limit + 1) * fractionCount ≤ code) :
    ∃ eighths eighth, oneUnits = 8 * eighth ∧ units code = eighths * eighth := by
  obtain ⟨shift, significand, has⟩ := exists_significand code
  obtain ⟨further, rfl⟩ := Nat.exists_eq_add_of_le (has.le_shift coarse)
  refine ⟨significand * 2 ^ further, 2 ^ limit, oneUnits_split sum, ?_⟩
  rw [has.units_eq, Nat.pow_add, Nat.mul_assoc, Nat.mul_comm (2 ^ further)]

end spacing

section reading

/-- What reads as a magnitude is at most half a spacing above or below it. Up to 2^49
the two halves are less than a tenth, so no two numbers of tenths read as it. -/
theorem le_of_reads (fine : code ≤ coarseCode) (reads : decimalCode digits (-1) = code)
    (readsToo : decimalCode more (-1) = code) : more ≤ digits := by
  refine le_of_mul_lt (show more * oneUnits < digits * oneUnits + oneUnits from ?_)
  have count := fractionCount_pos
  have above : 2 ^ 3 * units (code + 1) ≤ 2 ^ 3 * units code + oneUnits :=
    units_succ_le (show 3 + 1071 = 1074 from rfl) (by rw [coarseCode] at fine; omega)
  rw [decimalCode_tenths] at reads readsToo
  have within := (nearestCode_le_iff (by decide) code).mp (Nat.le_of_eq readsToo)
  rw [midpoint] at within
  have positive := oneUnits_pos
  cases code with
  | zero =>
    rw [units_zero] at above within
    omega
  | succ code =>
    have below : 2 ^ 4 * units (code + 1) ≤ 2 ^ 4 * units code + oneUnits :=
      units_succ_le (show 4 + 1070 = 1074 from rfl) (by rw [coarseCode] at fine; omega)
    have beyond : ¬nearestCode (digits * oneUnits) 10 ≤ code := by omega
    rw [nearestCode_le_iff (by decide), midpoint] at beyond
    omega

theorem eq_of_reads (fine : code ≤ coarseCode) (reads : decimalCode digits (-1) = code)
    (readsToo : decimalCode more (-1) = code) : digits = more :=
  Nat.le_antisymm (le_of_reads fine readsToo reads) (le_of_reads fine reads readsToo)

/-- Below 2^52 a whole number that reads as a code is its magnitude: both are multiples
of the spacing, and they are at most half a spacing apart. -/
theorem whole_of_reads (has : HasSignificand code shift significand) (low : shift ≤ 1073)
    (reads : decimalCode digits 0 = code) : digits * oneUnits = units code := by
  rw [decimalCode_zero_exponent] at reads
  have near := has.near_of_nearestCode Nat.one_pos reads
  have positive : 0 < 2 ^ shift := Nat.two_pow_pos _
  rw [oneUnits_eq (show shift ≤ 1074 by omega), ← Nat.mul_assoc digits, has.units_eq] at near ⊢
  generalize digits * 2 ^ (1074 - shift) = whole at near ⊢
  congr 1
  apply Nat.le_antisymm
  · exact le_of_mul_lt (show whole * 2 ^ shift < significand * 2 ^ shift + 2 ^ shift by omega)
  · exact le_of_mul_lt (show significand * 2 ^ shift < whole * 2 ^ shift + 2 ^ shift by omega)

end reading

/-- The tenths nearest to a magnitude, and the upper ones if two are equally near. -/
def tenthsUp (magnitude : Nat) : Nat :=
  if 2 * (magnitude * 10 % oneUnits) < oneUnits then magnitude * 10 / oneUnits
  else magnitude * 10 / oneUnits + 1

/-- An exact quarter past 2^49: two tenths are equally near to it, and both read as it. -/
def IsCoarseQuarter (magnitude : Nat) : Prop :=
  coarseFrom ≤ magnitude ∧ 4 * (magnitude % oneUnits) = oneUnits

instance (magnitude : Nat) : Decidable (IsCoarseQuarter magnitude) :=
  inferInstanceAs (Decidable (_ ∧ _))

section ties

theorem tenthsUp_near (magnitude : Nat) :
    2 * (tenthsUp magnitude * oneUnits) ≤ 20 * magnitude + oneUnits ∧
      20 * magnitude ≤ 2 * (tenthsUp magnitude * oneUnits) + oneUnits := by
  have split : magnitude * 10 / oneUnits * oneUnits + magnitude * 10 % oneUnits = magnitude * 10 :=
    Nat.div_add_mod' _ _
  have below : magnitude * 10 % oneUnits < oneUnits := Nat.mod_lt _ oneUnits_pos
  unfold tenthsUp
  split
  · omega
  · rw [Nat.add_mul (magnitude * 10 / oneUnits)]
    omega

theorem tenthsUp_whole (whole : Nat) : tenthsUp (whole * oneUnits) = whole * 10 := by
  have positive := oneUnits_pos
  rw [tenthsUp, Nat.mul_right_comm, Nat.mul_mod_left, Nat.mul_div_cancel _ positive,
    if_pos (by omega)]

/-- The two ways to round differ on an exact half above an even number of tenths. -/
theorem tenthsUp_eq (magnitude : Nat) :
    tenthsUp magnitude =
      if 2 * (magnitude * 10 % oneUnits) = oneUnits ∧ magnitude * 10 / oneUnits % 2 = 0 then
        tenths magnitude + 1
      else tenths magnitude := by
  simp only [tenthsUp, tenths, roundDiv]
  split
  · rw [if_neg (by omega), if_pos (by omega)]
  · by_cases half : 2 * (magnitude * 10 % oneUnits) = oneUnits ∧ magnitude * 10 / oneUnits % 2 = 0
    · rw [if_pos half, if_pos (.inr half)]
    · rw [if_neg half, if_neg (by omega)]

/-- Among eighths a quarter is the only such half. -/
theorem half_iff_quarter {eighths eighth : Nat} (one : oneUnits = 8 * eighth)
    (same : magnitude = eighths * eighth) :
    (2 * (magnitude * 10 % oneUnits) = oneUnits ∧ magnitude * 10 / oneUnits % 2 = 0) ↔
      4 * (magnitude % oneUnits) = oneUnits := by
  have positive : 0 < eighth := by
    have positive := oneUnits_pos
    omega
  have scale : ∀ factor rest, factor * (rest * eighth) = 8 * eighth ↔ factor * rest = 8 := by
    intro factor rest
    rw [← Nat.mul_assoc, Nat.mul_left_inj (Nat.ne_of_gt positive)]
  rw [same, one, Nat.mul_right_comm, Nat.mul_mod_mul_right, Nat.mul_div_mul_right _ _ positive,
    Nat.mul_mod_mul_right, scale, scale]
  omega

theorem tenths_of_quarter (quarter : 4 * (magnitude % oneUnits) = oneUnits) :
    tenths magnitude = magnitude / oneUnits * 10 + 2 := by
  have positive := oneUnits_pos
  have tenfold : 2 * (magnitude % oneUnits) + oneUnits * (magnitude / oneUnits * 10 + 2) =
      magnitude * 10 := by
    have split : oneUnits * (magnitude / oneUnits) + magnitude % oneUnits = magnitude :=
      Nat.div_add_mod _ _
    rw [Nat.mul_add, ← Nat.mul_assoc]
    omega
  obtain ⟨quotient, rest⟩ := (Nat.div_mod_unique positive).mpr ⟨tenfold, by omega⟩
  rw [tenths, roundDiv, quotient, rest, if_pos (by omega)]

/-- Of the two points beside a magnitude on the grid of tenths these come first. -/
theorem exists_neighbours_tenths (code : Nat) :
    ∃ farther, neighbours code (-1) = [⟨tenthsUp (units code), -1⟩, farther] := by
  have split : units code * 10 / oneUnits * oneUnits + units code * 10 % oneUnits =
      units code * 10 := Nat.div_add_mod' _ _
  have scaled : units code * 10 ^ (- -1 : Int).toNat = units code * 10 := rfl
  have grid : oneUnits * 10 ^ (-1 : Int).toNat = oneUnits := Nat.mul_one _
  have nearer : 2 * (units code * 10) < (2 * (units code * 10 / oneUnits) + 1) * oneUnits ↔
      2 * (units code * 10 % oneUnits) < oneUnits := by
    rw [Nat.add_mul, Nat.mul_assoc]
    omega
  simp only [neighbours, scaled, grid, nearer, tenthsUp]
  split
  · exact ⟨_, rfl⟩
  · exact ⟨_, rfl⟩

theorem hit?_of_reads (reads : decimalCode (tenthsUp (units code)) (-1) = code) :
    hit? code (-1) = some ⟨tenthsUp (units code), -1⟩ := by
  obtain ⟨farther, listed⟩ := exists_neighbours_tenths code
  rw [hit?, listed]
  exact List.find?_cons_of_pos (readsAs_iff.mpr reads)

end ties

/-- The number of tenths that the shortest decimal of a settled magnitude comes to. -/
def shownTenths (code : Nat) : Nat :=
  (shortest code).digits * 10 ^ ((shortest code).exponent + 1).toNat

theorem shownTenths_of_whole (whole : 0 ≤ (shortest code).exponent) :
    shownTenths code = (shortest code).digits * 10 ^ (shortest code).exponent.toNat * 10 := by
  have next : ((shortest code).exponent + 1).toNat = (shortest code).exponent.toNat + 1 := by omega
  rw [shownTenths, next, Nat.pow_succ, Nat.mul_assoc]

theorem shownTenths_of_tenth (tenth : (shortest code).exponent = -1) :
    shownTenths code = (shortest code).digits := by
  rw [shownTenths, tenth]
  exact Nat.mul_one _

theorem decimalCode_shownTenths (settled : IsSettled code) :
    decimalCode (shownTenths code) (-1) = code := by
  rcases shortest_of_isSettled settled with whole | ⟨tenth, _⟩
  · rw [shownTenths_of_whole whole, decimalCode_ten_mul, decimalCode_of_whole_exponent whole,
      decimalCode_shortest]
  · rw [shownTenths_of_tenth tenth, ← tenth, decimalCode_shortest]

theorem shownTenths_eq_zero_iff (settled : IsSettled code) : shownTenths code = 0 ↔ code = 0 := by
  have reads := decimalCode_shownTenths settled
  constructor
  · intro zero
    rw [← reads, zero, decimalCode_zero_digits]
  · rintro rfl
    exact eq_of_reads (Nat.zero_le _) reads (decimalCode_zero_digits _)

theorem shownTenths_of_fine (fine : code ≤ coarseCode) :
    shownTenths (tenthCode code) = tenths (units code) := by
  have whole : oneUnits ∣ units coarseCode := by
    rw [units_coarseCode, coarseFrom]
    exact Nat.dvd_mul_left ..
  have small : ¬wholeFrom ≤ units code := by
    have most := units_le fine
    have less : coarseFrom < wholeFrom := Nat.mul_lt_mul_of_pos_right (by decide) oneUnits_pos
    rw [units_coarseCode] at most
    omega
  have reads : decimalCode (tenths (units code)) (-1) = tenthCode code := by
    rw [tenthCode, if_neg small]
  exact eq_of_reads (tenthCode_le_of_whole whole fine)
    (decimalCode_shownTenths (isSettled_tenthCode code)) reads

theorem tenthCode_of_coarse (coarse : coarseCode ≤ code) : tenthCode code = code := by
  obtain ⟨shift, significand, has⟩ := exists_significand code
  have settled : IsSettled code := ⟨_, decimalCode_tenths_of_spaced has (has.le_shift coarse)⟩
  exact settled.tenthCode_eq

theorem shownTenths_of_coarse (coarse : coarseCode ≤ code) (small : units code < wholeFrom) :
    shownTenths (tenthCode code) = tenthsUp (units code) := by
  obtain ⟨shift, significand, has⟩ := exists_significand code
  have high : 1071 ≤ shift := has.le_shift coarse
  have low : shift ≤ 1073 := by
    refine has.shift_le (Nat.lt_of_not_le fun large => ?_)
    have least : units wholeCode ≤ units code := units_le large
    rw [units_wholeCode] at least
    omega
  have still := tenthCode_of_coarse coarse
  have settled : IsSettled code := still ▸ isSettled_tenthCode code
  rw [still]
  rcases shortest_of_isSettled settled with whole | ⟨tenth, _⟩
  · have reads := (decimalCode_of_whole_exponent whole).trans (decimalCode_shortest code)
    rw [shownTenths_of_whole whole, ← whole_of_reads has low reads, tenthsUp_whole]
  · -- A power of two has less room below, but it is whole, and a whole number has no tenths.
    have inner : significand ≠ fractionCount := by
      rintro rfl
      obtain ⟨quotient, same⟩ := has.whole_of_power high
      have reads := (decimalCode_ten_mul quotient).symm.trans (decimalCode_of_whole same)
      have whole := le_exponent_shortest reads (by decide) (by decide)
      omega
    have near := tenthsUp_near (units code)
    have hit := hit?_of_reads (has.reads_of_near high inner near.1 near.2)
    rw [shownTenths_of_tenth tenth, shortest_of_hit? tenth (by decide) hit]

/-- The shortest digits of a rounded number are the nearest tenths, but for the exact
quarters past 2^49, where they are the upper ones. -/
theorem shownTenths_tenthCode (small : units code < wholeFrom) :
    shownTenths (tenthCode code) =
      if IsCoarseQuarter (units code) then tenths (units code) + 1 else tenths (units code) := by
  by_cases coarse : coarseCode ≤ code
  · obtain ⟨eighths, eighth, one, same⟩ :=
      exists_eighths (show 3 + 1071 = 1074 from rfl) coarse
    simp only [shownTenths_of_coarse coarse small, tenthsUp_eq, half_iff_quarter one same,
      IsCoarseQuarter, coarse_iff.mp coarse, true_and]
  · have fine : ¬IsCoarseQuarter (units code) := fun quarter => coarse (coarse_iff.mpr quarter.1)
    rw [if_neg fine, shownTenths_of_fine (Nat.le_of_not_le coarse)]

/-- Both tenths beside a coarse quarter read as it: it is rounded to the lower ones, and shows
the upper ones. -/
theorem reads_of_quarter (small : units code < wholeFrom) (quarter : IsCoarseQuarter (units code))
    (beside : digits = tenths (units code) ∨ digits = tenths (units code) + 1) :
    decimalCode digits (-1) = code := by
  have still := tenthCode_of_coarse (coarse_iff.mpr quarter.1)
  rcases beside with rfl | rfl
  · rwa [tenthCode, if_neg (Nat.not_le.mpr small)] at still
  · have shown := shownTenths_tenthCode small
    rw [if_pos quarter] at shown
    rw [← shown, decimalCode_shownTenths (isSettled_tenthCode code), still]

end Binary64

end PostfixSheet
