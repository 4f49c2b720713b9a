import PostfixSheet.Number.Shortest
import PostfixSheet.Proofs.Number.Tenths

/-! The shortest decimal reads back. A grid of decimals has a point that reads as a
magnitude only if one of the two points beside the magnitude does, since rounding
keeps the order. So the search ends on the coarsest grid that can tell the magnitude
from the others, and on no grid at all only with the exact value. A settled number
needs no grid finer than the tenths, and the tenth is not a zero, since then the
whole numbers would have done. -/
namespace PostfixSheet.Decimal
open Binary64

attribute [local instance (high)] instPowNat

attribute [local irreducible] oneUnits

variable {code digits finer : Nat} {exponent coarse : Int} {decimal : Decimal}

theorem ten_pow_pos (power : Nat) : 0 < 10 ^ power := Nat.pow_pos (by decide)

theorem grid_pos (exponent : Int) : 0 < oneUnits * 10 ^ exponent.toNat :=
  Nat.mul_pos oneUnits_pos (ten_pow_pos _)

theorem readsAs_iff : decimal.readsAs code = true ↔
    decimalCode decimal.digits decimal.exponent = code := by
  rw [readsAs, beq_iff_eq]

/-- The greatest point of a grid that is not above a magnitude. -/
def lowerPoint (code : Nat) (exponent : Int) : Nat :=
  units code * 10 ^ (-exponent).toNat / (oneUnits * 10 ^ exponent.toNat)

theorem decimalCode_mono {more : Nat} (least : digits ≤ more) :
    decimalCode digits exponent ≤ decimalCode more exponent := by
  refine nearestCode_mono (ten_pow_pos _) (ten_pow_pos _) ?_
  exact Nat.mul_le_mul_right _ (Nat.mul_le_mul_right _ (Nat.mul_le_mul_right _ least))

theorem decimalCode_lowerPoint_le (code : Nat) (exponent : Int) :
    decimalCode (lowerPoint code exponent) exponent ≤ code := by
  have below := Nat.div_mul_le_self (units code * 10 ^ (-exponent).toNat)
    (oneUnits * 10 ^ exponent.toNat)
  have rounded := nearestCode_mono (ten_pow_pos (-exponent).toNat) Nat.one_pos
    (show lowerPoint code exponent * 10 ^ exponent.toNat * oneUnits * 1 ≤
      units code * 10 ^ (-exponent).toNat by
      rwa [Nat.mul_one, Nat.mul_assoc, Nat.mul_comm (10 ^ exponent.toNat)])
  rwa [nearestCode_units] at rounded

theorem le_decimalCode_lowerPoint_succ (code : Nat) (exponent : Int) :
    code ≤ decimalCode (lowerPoint code exponent + 1) exponent := by
  have above := Nat.lt_mul_of_div_lt (Nat.lt_succ_self (lowerPoint code exponent))
    (grid_pos exponent)
  have rounded := nearestCode_mono Nat.one_pos (ten_pow_pos (-exponent).toNat)
    (show units code * 10 ^ (-exponent).toNat ≤
      (lowerPoint code exponent + 1) * 10 ^ exponent.toNat * oneUnits * 1 by
      rw [Nat.mul_one, Nat.mul_assoc, Nat.mul_comm (10 ^ exponent.toNat)]
      exact Nat.le_of_lt above)
  rwa [nearestCode_units] at rounded

theorem mem_neighbours_iff : decimal ∈ neighbours code exponent ↔
    decimal = ⟨lowerPoint code exponent, exponent⟩ ∨
      decimal = ⟨lowerPoint code exponent + 1, exponent⟩ := by
  simp only [neighbours, lowerPoint]
  split
  · simp only [List.mem_cons, List.not_mem_nil, or_false]
  · simp only [List.mem_cons, List.not_mem_nil, or_false]
    exact or_comm

theorem exponent_of_hit (found : hit? code exponent = some decimal) :
    decimal.exponent = exponent ∧ decimal.readsAs code = true := by
  have isRead := List.find?_some found
  refine ⟨?_, isRead⟩
  rcases mem_neighbours_iff.mp (List.mem_of_find?_eq_some found) with rfl | rfl
  · rfl
  · rfl

/-- If a point of the grid reads as the magnitude, so does a point beside it. -/
theorem isSome_hit? (reads : decimalCode digits exponent = code) :
    (hit? code exponent).isSome = true := by
  rw [hit?, List.find?_isSome]
  by_cases low : digits ≤ lowerPoint code exponent
  · refine ⟨_, mem_neighbours_iff.mpr (.inl rfl), readsAs_iff.mpr ?_⟩
    apply Nat.le_antisymm
    · exact decimalCode_lowerPoint_le code exponent
    · exact Nat.le_trans (Nat.le_of_eq reads.symm) (decimalCode_mono low)
  · refine ⟨_, mem_neighbours_iff.mpr (.inr rfl), readsAs_iff.mpr ?_⟩
    apply Nat.le_antisymm
    · exact Nat.le_trans (decimalCode_mono (Nat.lt_of_not_le low)) (Nat.le_of_eq reads)
    · exact le_decimalCode_lowerPoint_succ code exponent

/-- Where one is a power of two units, every magnitude is a decimal with as many places. -/
theorem decimalCode_exact (code : Nat) {places : Nat} (one : oneUnits = 2 ^ places) :
    decimalCode (units code * 5 ^ places) (-places) = code := by
  have up : (-places : Int).toNat = 0 := by omega
  have down : (- -places : Int).toNat = places := by omega
  have power : 5 ^ places * oneUnits = 10 ^ places := by
    rw [one, ← Nat.mul_pow]
  have onGrid := nearestCode_units_mul code (ten_pow_pos places)
  rw [decimalCode, up, down, Nat.pow_zero, Nat.mul_one, Nat.mul_assoc, power]
  exact onGrid

theorem readsAs_ofMagnitude (code : Nat) : (ofMagnitude code).readsAs code = true := by
  apply readsAs_iff.mpr
  exact @decimalCode_exact code 1074 (by rw [oneUnits])

section search

variable {hit? : Int → Option Decimal} {last : Decimal}

/-- What holds of every hit and of the last resort holds of what is found. -/
theorem search_induction {motive : Decimal → Prop} (atLast : motive last)
    (atHit : ∀ exponent decimal, hit? exponent = some decimal → motive decimal) :
    motive (search hit? last exponent finer) := by
  induction finer generalizing exponent with
  | zero => exact atLast
  | succ finer ih =>
    rw [search]
    split
    · rename_i decimal found
      exact atHit exponent decimal found
    · exact ih

theorem le_exponent_search (present : (hit? coarse).isSome = true)
    (onGrid : ∀ exponent decimal, hit? exponent = some decimal → decimal.exponent = exponent)
    (reached : coarse ≤ exponent) (within : exponent < coarse + finer) :
    coarse ≤ (search hit? last exponent finer).exponent := by
  induction finer generalizing exponent with
  | zero => omega
  | succ finer ih =>
    rw [search]
    split
    · rename_i decimal found
      rwa [onGrid exponent decimal found]
    · rename_i missed
      have passed : coarse ≠ exponent := by
        rintro rfl
        simp [missed] at present
      exact ih (by omega) (by omega)

end search

theorem decimalCode_shortest (code : Nat) :
    decimalCode (shortest code).digits (shortest code).exponent = code :=
  readsAs_iff.mp <| search_induction (readsAs_ofMagnitude code) fun _ _ found =>
    (exponent_of_hit found).2

/-- No decimal that reads as the magnitude has a smaller exponent than needed. -/
theorem le_exponent_shortest (reads : decimalCode digits coarse = code) (low : coarse ≤ 1)
    (high : -1074 < coarse) : coarse ≤ (shortest code).exponent := by
  have places : 0 < (Nat.toDigits 10 (units code / oneUnits)).length :=
    List.length_pos_iff.mpr Nat.toDigits_ne_nil
  unfold shortest
  refine le_exponent_search (isSome_hit? reads) ?_ (by omega) (by omega)
  exact fun _ _ found => (exponent_of_hit found).1

/-- The shortest decimal is the hit on its grid, but for the last resort. -/
theorem shortest_eq_or_hit? (code : Nat) : shortest code = ofMagnitude code ∨
    hit? code (shortest code).exponent = some (shortest code) :=
  search_induction
    (motive := fun decimal =>
      decimal = ofMagnitude code ∨ hit? code decimal.exponent = some decimal)
    (.inl rfl) fun _ _ found => .inr ((exponent_of_hit found).1 ▸ found)

theorem shortest_of_hit? (same : (shortest code).exponent = exponent) (above : -1074 < exponent)
    (hit : hit? code exponent = some decimal) : shortest code = decimal := by
  rcases shortest_eq_or_hit? code with last | found
  · have least : (ofMagnitude code).exponent = -1074 := rfl
    rw [← last] at least
    omega
  · rw [same, hit, Option.some.injEq] at found
    exact found.symm

/-- A whole decimal reads as it does when its zeros are written out. -/
theorem decimalCode_of_whole_exponent (whole : 0 ≤ exponent) :
    decimalCode (digits * 10 ^ exponent.toNat) 0 = decimalCode digits exponent := by
  have places : (-exponent).toNat = 0 := by omega
  rw [decimalCode_zero_exponent, decimalCode, places, Nat.pow_zero]

theorem decimalCode_ten_mul (digits : Nat) :
    decimalCode (digits * 10) (-1) = decimalCode digits 0 := by
  rw [decimalCode_tenths, decimalCode_zero_exponent]
  refine nearestCode_congr (by decide) Nat.one_pos ?_
  rw [Nat.mul_one, Nat.mul_right_comm]

/-- The shortest decimal of a settled magnitude is whole, or it has one fractional
digit other than zero. -/
theorem shortest_of_isSettled (settled : IsSettled code) :
    0 ≤ (shortest code).exponent ∨
      (shortest code).exponent = -1 ∧ (shortest code).digits % 10 ≠ 0 := by
  obtain ⟨digits, reads⟩ := settled
  have bound := le_exponent_shortest reads (by decide) (by decide)
  by_cases whole : 0 ≤ (shortest code).exponent
  · exact .inl whole
  · have exponent : (shortest code).exponent = -1 := by omega
    refine .inr ⟨exponent, fun round => whole ?_⟩
    have isRead := decimalCode_shortest code
    rw [exponent, ← Nat.div_mul_cancel (Nat.dvd_of_mod_eq_zero round), decimalCode_ten_mul]
      at isRead
    exact le_exponent_shortest isRead (by decide) (by decide)

end PostfixSheet.Decimal
