import PostfixSheet.Proofs.Number.Coarse
import PostfixSheet.Proofs.Number.Reading
import Mathlib.Data.List.Basic

/-! Fixed-point notation and the text of a number. Fixed-point notation with one digit
behind the point writes the tenths nearest to the exact value, the even ones if two are
equally near. The text of a number is made in two steps instead: this decimal is read
as a number, and the shortest digits of that number are written. Below 2^52 the text is
the fixed-point notation without a fraction of zero and without the sign of a zero,
but for the exact quarters from 2^49 on: there the shortest digits are one tenth
further up. -/
namespace PostfixSheet

attribute [local instance (high)] instPowNat

attribute [local irreducible] Binary64.oneUnits

namespace Binary64

section rounding

variable {numerator denominator integer other low high gap : Nat}

/-- How far a multiple of the denominator is from the numerator. -/
def distance (numerator denominator integer : Nat) : Nat :=
  ((numerator : Int) - integer * denominator).natAbs

/-- The integer nearest to a quotient; of two that are equally near, the even one. -/
structure RoundsToEven (numerator denominator integer : Nat) : Prop where
  nearest : ∀ other,
    distance numerator denominator integer ≤ distance numerator denominator other
  even : ∀ other, other ≠ integer →
    distance numerator denominator other = distance numerator denominator integer →
    integer % 2 = 0

theorem gap_le_distance (numerator denominator : Nat) (apart : low + gap ≤ high) :
    gap * denominator ≤
      distance numerator denominator low + distance numerator denominator high := by
  have scaled := Nat.mul_le_mul_right denominator apart
  rw [Nat.add_mul] at scaled
  simp only [distance, ← Int.natCast_mul]
  omega

theorem le_distance_of_ne (numerator denominator : Nat) (different : other ≠ integer) :
    denominator ≤
      distance numerator denominator other + distance numerator denominator integer := by
  rcases Nat.lt_or_gt_of_ne different with less | more
  · have far := gap_le_distance numerator denominator (show other + 1 ≤ integer from less)
    omega
  · have far := gap_le_distance numerator denominator (show integer + 1 ≤ other from more)
    omega

theorem two_mul_distance_roundDiv_le (numerator : Nat) (positive : 0 < denominator) :
    2 * distance numerator denominator (roundDiv numerator denominator) ≤ denominator := by
  have near := roundDiv_near numerator positive
  simp only [distance, ← Int.natCast_mul]
  omega

theorem even_roundDiv_of_half (positive : 0 < denominator)
    (half : 2 * distance numerator denominator (roundDiv numerator denominator) = denominator) :
    roundDiv numerator denominator % 2 = 0 := by
  have split : numerator / denominator * denominator + numerator % denominator = numerator :=
    Nat.div_add_mod' numerator denominator
  have below : numerator % denominator < denominator := Nat.mod_lt _ positive
  simp only [distance, ← Int.natCast_mul, roundDiv] at half ⊢
  split at half
  · rename_i down
    rw [if_pos down]
    omega
  · rename_i up
    rw [Nat.add_mul (numerator / denominator), Nat.one_mul] at half
    rw [if_neg up]
    omega

theorem roundsToEven_roundDiv (numerator : Nat) (positive : 0 < denominator) :
    RoundsToEven numerator denominator (roundDiv numerator denominator) where
  nearest := by
    intro other
    have near := two_mul_distance_roundDiv_le numerator positive
    by_cases same : other = roundDiv numerator denominator
    · exact Nat.le_of_eq (congrArg _ same.symm)
    · have far := le_distance_of_ne numerator denominator same
      omega
  even := by
    intro other different equal
    have near := two_mul_distance_roundDiv_le numerator positive
    have far := le_distance_of_ne numerator denominator different
    exact even_roundDiv_of_half positive (by omega)

/-- One integer is nearest in this sense: two even ones are two apart, and then they are not
both within a half. -/
theorem roundsToEven_iff (positive : 0 < denominator) :
    RoundsToEven numerator denominator integer ↔ integer = roundDiv numerator denominator := by
  have rounded := roundsToEven_roundDiv numerator positive
  constructor
  · intro rounds
    have near := two_mul_distance_roundDiv_le numerator positive
    refine Decidable.byContradiction fun different => ?_
    have equal := Nat.le_antisymm (rounds.nearest _) (rounded.nearest _)
    have left := rounds.even _ (Ne.symm different) equal.symm
    have right := rounded.even _ different equal
    rcases Nat.lt_or_gt_of_ne different with less | more
    · have far := gap_le_distance numerator denominator
        (show integer + 2 ≤ roundDiv numerator denominator by omega)
      omega
    · have far := gap_le_distance numerator denominator
        (show roundDiv numerator denominator + 2 ≤ integer by omega)
      omega
  · rintro rfl
    exact rounded

theorem distance_of_quarter {magnitude : Nat} (quarter : 4 * (magnitude % oneUnits) = oneUnits)
    (beside : other = tenths magnitude ∨ other = tenths magnitude + 1) :
    2 * distance (magnitude * 10) oneUnits other = oneUnits := by
  have split : magnitude / oneUnits * oneUnits + magnitude % oneUnits = magnitude :=
    Nat.div_add_mod' ..
  rw [tenths_of_quarter quarter] at beside
  simp only [distance, ← Int.natCast_mul]
  rcases beside with rfl | rfl
  · rw [Nat.add_mul (magnitude / oneUnits * 10), Nat.mul_right_comm]
    omega
  · rw [Nat.add_assoc, Nat.add_mul (magnitude / oneUnits * 10), Nat.mul_right_comm]
    omega

end rounding

section notations
open Text Decimal

variable {front : List Char} {negative : Bool} {code count : Nat}

/-- The notation with one digit behind the point, for a number of tenths. -/
def fixedPoint (negative : Bool) (count : Nat) : List Char :=
  (if negative then ['-'] else []) ++ positional ⟨count, -1⟩

/-- A text without a fraction of zero, and `0` in place of `-0`. -/
def trimmed (text : List Char) : List Char :=
  let short := (text.dropSuffix? ['.', '0']).getD text
  if short = ['-', '0'] then ['0'] else short

def tenthsDigits (count : Nat) : List Char :=
  numeral (count / 10) ++ if count % 10 = 0 then [] else ['.', (count % 10).digitChar]

/-- Signed tenths, where a zero has no sign. -/
def tenthsText (negative : Bool) (count : Nat) : List Char :=
  if count = 0 then ['0'] else (if negative then ['-'] else []) ++ tenthsDigits count

theorem positional_shortest (settled : IsSettled code) :
    (shortest code).positional = tenthsDigits (shownTenths code) := by
  rcases shortest_of_isSettled settled with whole | ⟨tenth, nonzero⟩
  · rw [positional_of_whole whole, tenthsDigits, shownTenths_of_whole whole,
      Nat.mul_div_cancel _ (by decide), if_pos (Nat.mul_mod_left ..), List.append_nil]
  · rw [positional_of_tenth tenth, tenthsDigits, shownTenths_of_tenth tenth, if_neg nonzero]

theorem toList_text_finite (negative : Bool) (code : Fin magnitudeCount) :
    (text (.finite negative code)).toList = tenthsText negative (shownTenths (tenthCode code)) := by
  have settled := isSettled_tenthCode code
  rw [toList_text, roundToTenth_finite]
  simp only [plainText, tenthsText, shownTenths_eq_zero_iff settled, positional_shortest settled]

theorem tenthsText_add (negative : Bool) (whole digit : Nat) (positive : 0 < digit)
    (small : digit < 10) :
    tenthsText negative (whole * 10 + digit) =
      (if negative then ['-'] else []) ++ numeral whole ++ ['.', digit.digitChar] := by
  have quotient : (whole * 10 + digit) / 10 = whole := by omega
  have rest : (whole * 10 + digit) % 10 = digit := by omega
  rw [tenthsText, if_neg (show whole * 10 + digit ≠ 0 by omega), tenthsDigits, quotient, rest,
    if_neg (show digit ≠ 0 by omega), List.append_assoc]

theorem trimmed_append_zero (front : List Char) :
    trimmed (front ++ ['.', '0']) = if front = ['-', '0'] then ['0'] else front := by
  have dropped : (front ++ ['.', '0']).dropSuffix? ['.', '0'] = some front :=
    List.dropSuffix?_eq_some_iff.mpr ⟨_, rfl, rfl⟩
  rw [trimmed, dropped, Option.getD_some]

theorem trimmed_append_digit {digit : Char} (nonzero : digit ≠ '0') :
    trimmed (front ++ ['.', digit]) = front ++ ['.', digit] := by
  have kept : (front ++ ['.', digit]).dropSuffix? ['.', '0'] = none := by
    rw [Option.eq_none_iff_forall_ne_some]
    intro short dropped
    obtain ⟨rest, split, same⟩ := List.dropSuffix?_eq_some_iff.mp dropped
    obtain rfl := eq_of_beq same
    have ends := (List.append_inj' split rfl).2
    exact nonzero (List.cons.inj (List.cons.inj ends).2).1
  have unsigned : front ++ ['.', digit] ≠ ['-', '0'] := by
    intro same
    have ends := (List.append_inj' (same.trans (List.nil_append _).symm) rfl).2
    exact nonzero (List.cons.inj (List.cons.inj ends).2).1
  rw [trimmed, kept, Option.getD_none, if_neg unsigned]

theorem sign_append_numeral_eq_iff (negative : Bool) (n : Nat) :
    (if negative then ['-'] else []) ++ numeral n = ['-', '0'] ↔ negative = true ∧ n = 0 := by
  cases negative with
  | true =>
    constructor
    · intro same
      have zero : numeral n = ['0'] := (List.cons.inj same).2
      exact ⟨rfl, (numeralValue_numeral n).symm.trans (congrArg numeralValue zero)⟩
    · rintro ⟨_, rfl⟩
      rfl
  | false =>
    refine iff_of_false (fun same => ?_) nofun
    rw [if_neg Bool.false_ne_true, List.nil_append] at same
    have digit : '-'.isDigit = true := isDigit_of_mem_numeral (same ▸ List.mem_cons_self)
    contradiction

theorem trimmed_fixedPoint (negative : Bool) (count : Nat) :
    trimmed (fixedPoint negative count) = tenthsText negative count := by
  rw [fixedPoint, positional_of_tenth rfl, ← List.append_assoc]
  -- A signed zero can be left only where a fraction of zero is dropped.
  by_cases whole : count % 10 = 0
  · have point : (count % 10).digitChar = '0' := congrArg Nat.digitChar whole
    rw [point, trimmed_append_zero, tenthsText, tenthsDigits, if_pos whole, List.append_nil]
    simp only [sign_append_numeral_eq_iff]
    by_cases zero : count = 0
    · subst zero
      cases negative <;> rfl
    · rw [if_neg zero, if_neg (by omega)]
  · have digit : isNonzeroDigit (count % 10).digitChar = true :=
      isNonzeroDigit_digitChar (Nat.pos_of_ne_zero whole) (Nat.mod_lt _ (by decide))
    have nonzero : (count % 10).digitChar ≠ '0' := by
      rw [isNonzeroDigit, Bool.and_eq_true, bne_iff_ne] at digit
      exact digit.2
    rw [trimmed_append_digit nonzero, tenthsText, tenthsDigits, if_neg whole,
      if_neg (show count ≠ 0 by omega), List.append_assoc]

/-- Fixed-point notation of the nearest tenths is read as the rounded number. -/
theorem exists_literal_fixedPoint (negative : Bool) {code : Fin magnitudeCount}
    (below : units code < wholeFrom) :
    ∃ literal, Literal.ofText? (fixedPoint negative (tenths (units code))) = some literal ∧
      literal.value = roundToTenth (.finite negative code) := by
  obtain ⟨literal, read, value⟩ :=
    exists_literal_positional negative ⟨tenths (units code), -1⟩
  refine ⟨literal, read, value.trans ?_⟩
  rw [roundToTenth, if_neg (Nat.not_le.mpr below)]

theorem exists_literal_of_reads (negative : Bool) {code : Fin magnitudeCount}
    (reads : decimalCode count (-1) = code) :
    ∃ literal, Literal.ofText? (fixedPoint negative count) = some literal ∧
      literal.value = .finite negative code := by
  obtain ⟨literal, read, value⟩ := exists_literal_positional negative ⟨count, -1⟩
  exact ⟨literal, read, value.trans (ofDecimal_of_reads reads)⟩

/-- On an exact quarter past 2^49 fixed-point notation ends in the even digit, and the text
in the odd one above it. -/
theorem exists_front_of_quarter (negative : Bool) {code : Fin magnitudeCount}
    (below : units code < wholeFrom) (quarter : IsCoarseQuarter (units code)) :
    ∃ front, trimmed (fixedPoint negative (tenths (units code))) = front ++ ['.', '2'] ∧
      (text (.finite negative code)).toList = front ++ ['.', '3'] := by
  have lower := tenths_of_quarter quarter.2
  refine ⟨(if negative then ['-'] else []) ++ numeral (units code / oneUnits), ?_, ?_⟩
  · rw [trimmed_fixedPoint, lower]
    exact tenthsText_add negative _ 2 (by decide) (by decide)
  · rw [toList_text_finite, shownTenths_tenthCode below, if_pos quarter, lower]
    exact tenthsText_add negative _ 3 (by decide) (by decide)

/-- Below 2^52 one number of tenths is nearest to the exact value in the sense of
rounding to even. Its fixed-point notation is read as the rounded number, and without
a fraction of zero and the sign of a zero it is the text of the number, unless the
number is an exact quarter from 2^49 on. Such a number is not moved by rounding. The
tenths above it are as near as those below and are read as it too; the last digit of the
notation is a two, and the last digit of the text is a three. -/
theorem text_eq_trimmed_iff (negative : Bool) (code : Fin magnitudeCount)
    (below : units code < wholeFrom) :
    ∃ count, (∀ other, RoundsToEven (units code * 10) oneUnits other ↔ other = count) ∧
      (∃ literal, Literal.ofText? (fixedPoint negative count) = some literal ∧
        literal.value = roundToTenth (.finite negative code)) ∧
      ((text (.finite negative code)).toList = trimmed (fixedPoint negative count) ↔
        ¬IsCoarseQuarter (units code)) ∧
      (IsCoarseQuarter (units code) →
        (∃ front, trimmed (fixedPoint negative count) = front ++ ['.', '2'] ∧
          (text (.finite negative code)).toList = front ++ ['.', '3']) ∧
        roundToTenth (.finite negative code) = .finite negative code ∧
        ∀ beside, beside = count ∨ beside = count + 1 →
          2 * distance (units code * 10) oneUnits beside = oneUnits ∧
          ∃ literal, Literal.ofText? (fixedPoint negative beside) = some literal ∧
            literal.value = .finite negative code) := by
  refine ⟨tenths (units code), fun other => roundsToEven_iff oneUnits_pos,
    exists_literal_fixedPoint negative below, ⟨?_, ?_⟩, fun quarter =>
      ⟨exists_front_of_quarter negative below quarter, ?_, fun beside isBeside => ?_⟩⟩
  · intro same quarter
    obtain ⟨front, fixed, shown⟩ := exists_front_of_quarter negative below quarter
    rw [fixed, shown, List.append_cancel_left_eq] at same
    contradiction
  · intro other
    rw [toList_text_finite, shownTenths_tenthCode below, if_neg other, trimmed_fixedPoint]
  · rw [roundToTenth_finite]
    congr 1
    exact Fin.ext (tenthCode_of_coarse (coarse_iff.mpr quarter.1))
  · exact ⟨distance_of_quarter quarter.2 isBeside,
      exists_literal_of_reads negative (reads_of_quarter below quarter isBeside)⟩

/-- A quarter below 2^49 is no exception. -/
theorem text_eq_trimmed_minus_quarter :
    let code : Fin magnitudeCount := ⟨1021 * fractionCount, by decide⟩
    4 * units code = oneUnits ∧ units code < wholeFrom ∧
      ∃ count, (∀ other, RoundsToEven (units code * 10) oneUnits other ↔ other = count) ∧
        (text (.finite true code)).toList = trimmed (fixedPoint true count) := by
  intro code
  have quarter : 4 * units code = oneUnits := by decide +kernel
  have below : units code < wholeFrom := by decide +kernel
  have fine : ¬IsCoarseQuarter (units code) := by decide +kernel
  obtain ⟨count, unique, _, same, _⟩ := text_eq_trimmed_iff true code below
  exact ⟨quarter, below, count, unique, same.mpr fine⟩

/-- The number 2^50 + 1/4 rounds to even to a fraction of two tenths, and shows three. -/
theorem text_ne_trimmed_coarse_quarter :
    let code : Fin magnitudeCount := ⟨1073 * fractionCount + 1, by decide⟩
    4 * units code = (2 ^ 52 + 1) * oneUnits ∧ units code < wholeFrom ∧
      RoundsToEven (units code * 10) oneUnits 11258999068426242 ∧
      trimmed (fixedPoint false 11258999068426242) = "1125899906842624.2".toList ∧
      text (.finite false code) = "1125899906842624.3" ∧
      (text (.finite false code)).toList ≠ trimmed (fixedPoint false 11258999068426242) := by
  intro code
  have quarter : 4 * units code = (2 ^ 52 + 1) * oneUnits := by decide +kernel
  have below : units code < wholeFrom := by decide +kernel
  have nearest : 11258999068426242 = roundDiv (units code * 10) oneUnits := by decide +kernel
  have fixed : trimmed (fixedPoint false 11258999068426242) = "1125899906842624.2".toList := by
    decide +kernel
  have shown : text (.finite false code) = "1125899906842624.3" := by decide +kernel
  refine ⟨quarter, below, (roundsToEven_iff oneUnits_pos).mpr nearest, fixed, shown, ?_⟩
  rw [fixed, shown]
  decide

end notations

end Binary64

end PostfixSheet
