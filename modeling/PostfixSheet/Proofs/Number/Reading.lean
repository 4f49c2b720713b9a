import PostfixSheet.Formula.Token
import PostfixSheet.Number.Spelling
import PostfixSheet.Proofs.Number.Shortest
import PostfixSheet.Proofs.Number.Zeros
import Mathlib.Data.List.TakeDrop
import Mathlib.Data.List.TakeWhile
import Mathlib.Data.Nat.Digits.Defs

/-! A printed number is read back as that number. Positional notation is a literal
with the value of the decimal that it writes, and the shortest decimal has the value
of its number; only the sign of a zero is not written. A printed number that is
rounded has no leading zero, no exponent and at most one fractional digit, which is
not a zero. All literals are spellings of numbers, so no marker passes for one. -/
namespace PostfixSheet

attribute [local instance (high)] instPowNat
attribute [local irreducible] Binary64.oneUnits

namespace Text

variable {text : List Char}

theorem isDigit_of_mem_numeral {n : Nat} {char : Char} (member : char ∈ numeral n) :
    char.isDigit = true :=
  (isNumeral_iff.mp (isNumeral_numeral n)).2 char member

theorem not_mem_of_isNumeral {char : Char} (digits : isNumeral text = true)
    (other : char.isDigit = false) : char ∉ text := by
  intro member
  have digit := (isNumeral_iff.mp digits).2 char member
  rw [other] at digit
  contradiction

theorem splitOn_of_isNumeral (digits : isNumeral text = true) : text.splitOn '.' = [text] :=
  List.splitOn_eq_singleton (not_mem_of_isNumeral digits rfl)

theorem splitOn_fraction {whole fraction : List Char} (digits : isNumeral whole = true)
    (places : isNumeral fraction = true) :
    (whole ++ '.' :: fraction).splitOn '.' = [whole, fraction] := by
  rw [List.splitOn_append_cons_self_of_not_mem (not_mem_of_isNumeral digits rfl),
    splitOn_of_isNumeral places]

/-- A digit that is not a zero. -/
def isNonzeroDigit (char : Char) : Bool := char.isDigit && char != '0'

/-- A numeral without leading zeros. -/
def isWhole : List Char → Bool
  | ['0'] => true
  | first :: rest => isNonzeroDigit first && rest.all Char.isDigit
  | [] => false

theorem isNonzeroDigit_digitChar {n : Nat} (positive : 0 < n) (digit : n < 10) :
    isNonzeroDigit n.digitChar = true := by
  have all : ∀ k < 10, 0 < k → isNonzeroDigit k.digitChar = true := by decide
  exact all n digit positive

/-- The numeral of a positive number does not start with a zero. -/
theorem exists_first_digit {n : Nat} (positive : 0 < n) :
    ∃ first rest, numeral n = first :: rest ∧ isNonzeroDigit first = true := by
  induction n using Nat.strongRecOn with
  | _ n ih =>
    by_cases small : n < 10
    · exact ⟨_, [], Nat.toDigits_of_lt_base small, isNonzeroDigit_digitChar positive small⟩
    · obtain ⟨first, rest, shorter, nonzero⟩ := ih (n / 10) (by omega) (by omega)
      have longer : numeral n = numeral (n / 10) ++ [(n % 10).digitChar] :=
        Nat.toDigits_of_base_le (by decide) (by omega)
      refine ⟨first, rest ++ [(n % 10).digitChar], ?_, nonzero⟩
      rw [longer, shorter, List.cons_append]

theorem isWhole_numeral (n : Nat) : isWhole (numeral n) = true := by
  rcases Nat.eq_zero_or_pos n with rfl | positive
  · rfl
  · obtain ⟨first, rest, digits, nonzero⟩ := exists_first_digit positive
    have others : rest.all Char.isDigit = true := by
      rw [List.all_eq_true]
      intro char member
      exact isDigit_of_mem_numeral (digits ▸ List.mem_cons_of_mem _ member)
    rw [digits]
    unfold isWhole
    split
    · rfl
    · rename_i same
      obtain ⟨rfl, rfl⟩ := List.cons.inj same
      rw [nonzero, others, Bool.and_self]
    · contradiction

end Text

namespace Literal
open Text

variable {text : List Char} {negative : Bool} {literal : Literal}

theorem ofText?_eq_ofUnsigned? (unsigned : '-' ∉ text) : ofText? text = ofUnsigned? false text := by
  unfold ofText?
  split
  · exact absurd List.mem_cons_self unsigned
  · rfl

/-- The digits of a literal: a numeral, or two numerals with a point between them. -/
inductive Unsigned (negative : Bool) : List Char → Literal → Prop where
  | whole {digits : List Char} (isWhole : isNumeral digits = true) :
      Unsigned negative digits ⟨negative, numeralValue digits, 0⟩
  | fraction {whole places : List Char} (isWhole : isNumeral whole = true)
      (isFraction : isNumeral places = true) :
      Unsigned negative (whole ++ '.' :: places)
        ⟨negative, numeralValue (whole ++ places), places.length⟩

theorem unsigned_of_ofUnsigned? (read : ofUnsigned? negative text = some literal) :
    Unsigned negative text literal := by
  have joined : ['.'].intercalate (text.splitOn '.') = text := List.intercalate_splitOn '.'
  unfold ofUnsigned? at read
  split at read
  · rename_i whole pieces
    rw [pieces, List.intercalate_singleton] at joined
    subst joined
    obtain ⟨digits, value⟩ := Option.ite_none_right_eq_some.mp read
    obtain rfl := Option.some.inj value
    exact .whole digits
  · rename_i whole places pieces
    rw [pieces, List.intercalate_cons_cons, List.intercalate_singleton, List.append_assoc] at joined
    subst joined
    obtain ⟨digits, value⟩ := Option.ite_none_right_eq_some.mp read
    obtain rfl := Option.some.inj value
    rw [Bool.and_eq_true] at digits
    exact .fraction digits.1 digits.2
  · contradiction

theorem ofUnsigned?_eq_some_iff :
    ofUnsigned? negative text = some literal ↔ Unsigned negative text literal := by
  refine ⟨unsigned_of_ofUnsigned?, fun spelled => ?_⟩
  cases spelled with
  | whole digits =>
    simp only [ofUnsigned?, splitOn_of_isNumeral digits, digits, if_true]
  | fraction digits places =>
    simp only [ofUnsigned?, splitOn_fraction digits places, digits, places, Bool.and_self, if_true]

theorem Unsigned.isDigit_or_point (spelled : Unsigned negative text literal) {char : Char}
    (member : char ∈ text) : char.isDigit = true ∨ char = '.' := by
  cases spelled with
  | whole digits => exact .inl ((isNumeral_iff.mp digits).2 char member)
  | fraction digits places =>
    rcases List.mem_append.mp member with digit | behind
    · exact .inl ((isNumeral_iff.mp digits).2 char digit)
    · rcases List.mem_cons.mp behind with point | digit
      · exact .inr point
      · exact .inl ((isNumeral_iff.mp places).2 char digit)

theorem Unsigned.sign_not_mem (spelled : Unsigned negative text literal) : '-' ∉ text := by
  intro member
  rcases spelled.isDigit_or_point member with digit | point
  · contradiction
  · contradiction

/-- A sign in front of the digits is read with them. -/
theorem Unsigned.ofText?_sign_append (spelled : Unsigned negative text literal) :
    ofText? ((if negative then ['-'] else []) ++ text) = some literal := by
  have read := ofUnsigned?_eq_some_iff.mpr spelled
  cases negative with
  | true => exact read
  | false => exact (ofText?_eq_ofUnsigned? spelled.sign_not_mem).trans read

theorem isMantissa_of_ofUnsigned? (read : ofUnsigned? negative text = some literal) :
    Spelling.isMantissa text = true := by
  cases unsigned_of_ofUnsigned? read with
  | whole digits => simp only [Spelling.isMantissa, splitOn_of_isNumeral digits, digits]
  | @fraction whole places digits behind =>
    have joined : isNumeral (whole ++ places) = true := by
      rw [isNumeral_iff] at digits behind ⊢
      refine ⟨by simp [digits.1], fun char member => ?_⟩
      rcases List.mem_append.mp member with before | after
      · exact digits.2 char before
      · exact behind.2 char after
    simp only [Spelling.isMantissa, splitOn_fraction digits behind, joined]

theorem isNumber_of_mantissa {unsigned : List Char} (drops : Spelling.dropSign text = unsigned)
    (read : ofUnsigned? negative unsigned = some literal) : Spelling.isNumber text = true := by
  have plain : ∀ char ∈ unsigned, (!Spelling.isExponentMark char) = true := by
    intro char member
    rcases (unsigned_of_ofUnsigned? read).isDigit_or_point member with digit | rfl
    · simp only [Spelling.isExponentMark, Bool.not_eq_true', Bool.or_eq_false_iff,
        beq_eq_false_iff_ne]
      constructor
      · rintro rfl
        exact absurd digit (by decide)
      · rintro rfl
        exact absurd digit (by decide)
    · decide
  have parts : unsigned.span (fun char => !Spelling.isExponentMark char) = (unsigned, []) := by
    rw [List.span_eq_takeWhile_dropWhile, List.takeWhile_eq_self_iff.mpr plain,
      List.dropWhile_eq_nil_iff.mpr plain]
  simp only [Spelling.isNumber, drops, parts, isMantissa_of_ofUnsigned? read, Spelling.isExponent,
    Bool.and_self, Bool.or_true]

/-- Every literal is a spelling of a number. -/
theorem isNumber_of_ofText? (read : ofText? text = some literal) :
    Spelling.isNumber text = true := by
  unfold ofText? at read
  split at read
  · exact isNumber_of_mantissa rfl read
  · rename_i signless
    refine isNumber_of_mantissa ?_ read
    unfold Spelling.dropSign
    split
    · rcases (unsigned_of_ofUnsigned? read).isDigit_or_point List.mem_cons_self with digit | point
      · contradiction
      · contradiction
    · exact absurd rfl (signless _)
    · rfl

end Literal

namespace Token

theorem ofWord_of_literal {word : List Char} {literal : Literal}
    (read : Literal.ofText? word = some literal) : ofWord word = .number literal.value := by
  have ordinary : Operator.ofChars? word = none := by
    cases known : Operator.ofChars? word with
    | none => rfl
    | some operator =>
      obtain rfl := Operator.ofChars?_eq_some_iff.mp known
      cases operator <;> contradiction
  simp only [ofWord, ordinary, read]

end Token

namespace Decimal
open Text

variable {decimal : Decimal}

/-- The digits behind the point. -/
def fraction (decimal : Decimal) : List Char :=
  let places := (-decimal.exponent).toNat
  let rest := numeral (decimal.digits % 10 ^ places)
  List.replicate (places - rest.length) '0' ++ rest

theorem positional_of_whole (whole : 0 ≤ decimal.exponent) :
    decimal.positional = numeral (decimal.digits * 10 ^ decimal.exponent.toNat) :=
  if_pos whole

theorem positional_of_fraction (below : decimal.exponent < 0) :
    decimal.positional =
      numeral (decimal.digits / 10 ^ (-decimal.exponent).toNat) ++ '.' :: decimal.fraction :=
  if_neg (Int.not_le.mpr below)

theorem isNumeral_fraction (decimal : Decimal) : isNumeral decimal.fraction = true := by
  rw [isNumeral_iff]
  constructor
  · intro empty
    exact Nat.toDigits_ne_nil (List.append_eq_nil_iff.mp empty).2
  · intro char member
    rcases List.mem_append.mp member with padding | digit
    · rw [List.eq_of_mem_replicate padding]
      rfl
    · exact isDigit_of_mem_numeral digit

/-- There are as many digits behind the point as the exponent says. -/
theorem length_fraction (below : decimal.exponent < 0) :
    decimal.fraction.length = (-decimal.exponent).toNat := by
  have places : (numeral (decimal.digits % 10 ^ (-decimal.exponent).toNat)).length ≤
      (-decimal.exponent).toNat :=
    Nat.toDigits_length 10 _ _ (by omega) (Nat.mod_lt _ (ten_pow_pos _))
  rw [fraction, List.length_append, List.length_replicate, Nat.sub_add_cancel places]

theorem fraction_of_tenth (tenth : decimal.exponent = -1) :
    decimal.fraction = [(decimal.digits % 10).digitChar] := by
  have digit : numeral (decimal.digits % 10) = [(decimal.digits % 10).digitChar] :=
    Nat.toDigits_of_lt_base (Nat.mod_lt _ (by decide))
  have places : (-decimal.exponent).toNat = 1 := by omega
  rw [fraction, places, Nat.pow_one, digit]
  rfl

theorem positional_of_tenth (tenth : decimal.exponent = -1) :
    decimal.positional =
      numeral (decimal.digits / 10) ++ ['.', (decimal.digits % 10).digitChar] := by
  have places : (-decimal.exponent).toNat = 1 := by omega
  rw [positional_of_fraction (by omega), fraction_of_tenth tenth, places, Nat.pow_one]

theorem numeralValue_fraction (decimal : Decimal) :
    numeralValue decimal.fraction = decimal.digits % 10 ^ (-decimal.exponent).toNat := by
  rw [numeralValue, fraction, Nat.ofDigitChars_append, Nat.ofDigitChars_replicate_zero,
    Nat.mul_zero]
  exact numeralValue_numeral _

theorem numeralValue_append (whole fraction : List Char) :
    numeralValue (whole ++ fraction) =
      10 ^ fraction.length * numeralValue whole + numeralValue fraction := by
  rw [numeralValue, Nat.ofDigitChars_append, Nat.ofDigitChars_eq_ofDigitChars_zero]
  rfl

/-- Positional notation is a literal. -/
theorem unsigned_positional (negative : Bool) (decimal : Decimal) :
    Literal.Unsigned negative decimal.positional
      ⟨negative, decimal.digits * 10 ^ decimal.exponent.toNat, (-decimal.exponent).toNat⟩ := by
  by_cases whole : 0 ≤ decimal.exponent
  · have spelled := @Literal.Unsigned.whole negative _
      (isNumeral_numeral (decimal.digits * 10 ^ decimal.exponent.toNat))
    have places : (-decimal.exponent).toNat = 0 := by omega
    rw [positional_of_whole whole, places]
    rwa [numeralValue_numeral] at spelled
  · have below : decimal.exponent < 0 := Int.not_le.mp whole
    have spelled := @Literal.Unsigned.fraction negative _ _
      (isNumeral_numeral (decimal.digits / 10 ^ (-decimal.exponent).toNat))
      (isNumeral_fraction decimal)
    have noPower : decimal.exponent.toNat = 0 := by omega
    rw [positional_of_fraction below, noPower, Nat.pow_zero, Nat.mul_one]
    rwa [numeralValue_append, numeralValue_numeral, numeralValue_fraction, length_fraction below,
      Nat.div_add_mod] at spelled

/-- The literal has the value of the decimal. -/
theorem value_positional (negative : Bool) (decimal : Decimal) :
    Literal.value ⟨negative, decimal.digits * 10 ^ decimal.exponent.toNat,
      (-decimal.exponent).toNat⟩ = .ofDecimal negative decimal.digits decimal.exponent := by
  have up : (-((-decimal.exponent).toNat : Int)).toNat = 0 := by omega
  have down : (- -((-decimal.exponent).toNat : Int)).toNat = (-decimal.exponent).toNat := by omega
  rw [Literal.value, Binary64.ofDecimal, Binary64.ofDecimal, up, down, Nat.pow_zero, Nat.mul_one]

/-- A decimal in positional notation is read as the number nearest to it. -/
theorem exists_literal_positional (negative : Bool) (decimal : Decimal) :
    ∃ literal, Literal.ofText? ((if negative then ['-'] else []) ++ decimal.positional) =
        some literal ∧ literal.value = .ofDecimal negative decimal.digits decimal.exponent :=
  ⟨_, (unsigned_positional negative decimal).ofText?_sign_append, value_positional negative decimal⟩

theorem isDigit_or_point_of_mem_positional {char : Char} (member : char ∈ decimal.positional) :
    char.isDigit = true ∨ char = '.' :=
  (unsigned_positional false decimal).isDigit_or_point member

theorem sign_not_mem_positional (decimal : Decimal) : '-' ∉ decimal.positional :=
  (unsigned_positional false decimal).sign_not_mem

/-- The notation of a whole number, or of one with a single fractional digit. -/
def isUnsigned (text : List Char) : Bool :=
  match text.splitOn '.' with
  | [whole] => isWhole whole
  | [whole, [tenth]] => isWhole whole && isNonzeroDigit tenth
  | _ => false

/-- A decimal as a sheet prints it: no leading zero, no exponent, and at most one
fractional digit, which is not a zero. -/
def isPlain : List Char → Bool
  | '-' :: text => isUnsigned text
  | text => isUnsigned text

theorem isUnsigned_positional (short : 0 ≤ decimal.exponent ∨
    decimal.exponent = -1 ∧ decimal.digits % 10 ≠ 0) : isUnsigned decimal.positional = true := by
  rcases short with whole | ⟨tenths, nonzero⟩
  · rw [isUnsigned, positional_of_whole whole, splitOn_of_isNumeral (isNumeral_numeral _)]
    exact isWhole_numeral _
  · have below : decimal.exponent < 0 := by omega
    rw [isUnsigned, positional_of_fraction below,
      splitOn_fraction (isNumeral_numeral _) (isNumeral_fraction decimal), fraction_of_tenth tenths]
    simp only [isWhole_numeral, isNonzeroDigit_digitChar (Nat.pos_of_ne_zero nonzero)
      (Nat.mod_lt _ (by decide)), Bool.and_self]

theorem isPlain_eq_isUnsigned {text : List Char} (unsigned : '-' ∉ text) :
    isPlain text = isUnsigned text := by
  unfold isPlain
  split
  · exact absurd List.mem_cons_self unsigned
  · rfl

end Decimal

namespace Binary64
open Text Decimal

variable {negative : Bool} {code : Fin magnitudeCount} {number : Binary64}

/-- The characters that printed numbers are made of. -/
def isNumberChar (char : Char) : Bool := char.isDigit || char == '-' || char == '.'

theorem toList_text (number : Binary64) : number.text.toList = number.roundToTenth.plainText :=
  String.toList_ofList

theorem plainText_of_ne_zero (nonzero : code.val ≠ 0) :
    plainText (.finite negative code) =
      (if negative then ['-'] else []) ++ (shortest code).positional := if_neg nonzero

theorem value_zero (negative : Bool) : Literal.value ⟨negative, 0, 0⟩ = zero negative :=
  ofDecimal_of_reads (decimalCode_zero_digits _)

/-- The text of a finite number is a literal, and its value is the number. -/
theorem exists_literal_plainText (negative : Bool) (code : Fin magnitudeCount) :
    ∃ literal, Literal.ofText? (plainText (.finite negative code)) = some literal ∧
      literal.value = withoutZeroSign (.finite negative code) := by
  by_cases zero : code.val = 0
  · refine ⟨⟨false, 0, 0⟩, ?_, ?_⟩
    · rw [plainText, if_pos zero]
      rfl
    · obtain rfl : code = ⟨0, by decide⟩ := Fin.ext zero
      exact (value_zero false).trans (withoutZeroSign_zero negative).symm
  · obtain ⟨literal, read, value⟩ := exists_literal_positional negative (shortest code)
    rw [ofDecimal_of_reads (decimalCode_shortest code)] at value
    refine ⟨literal, (congrArg _ (plainText_of_ne_zero zero)).trans read, ?_⟩
    rw [withoutZeroSign_finite, bne_iff_ne.mpr zero, Bool.and_true]
    exact value

theorem isNumberChar_of_mem_plainText {char : Char}
    (member : char ∈ plainText (.finite negative code)) : isNumberChar char = true := by
  by_cases zero : code.val = 0
  · rw [plainText, if_pos zero, List.mem_singleton] at member
    subst member
    rfl
  · rw [plainText_of_ne_zero zero, List.mem_append] at member
    rcases member with sign | digit
    · cases negative with
      | true =>
        obtain rfl := List.mem_singleton.mp sign
        rfl
      | false => contradiction
    · rcases isDigit_or_point_of_mem_positional digit with digit | rfl
      · rw [isNumberChar, digit, Bool.true_or, Bool.true_or]
      · rfl

/-- The text of a rounded number is a plain decimal, and no zero has a sign. -/
theorem isPlain_plainText (negative : Bool) (settled : IsSettled code) :
    isPlain (plainText (.finite negative code)) = true ∧
      plainText (.finite negative code) ≠ ['-', '0'] := by
  by_cases zero : code.val = 0
  · rw [plainText, if_pos zero]
    decide
  · have unsigned := isUnsigned_positional (shortest_of_isSettled settled)
    constructor
    · rw [plainText_of_ne_zero zero]
      cases negative with
      | true => exact unsigned
      | false => exact (isPlain_eq_isUnsigned (sign_not_mem_positional _)).trans unsigned
    · intro same
      obtain ⟨literal, read, value⟩ := exists_literal_plainText negative code
      have signed : Literal.ofText? ['-', '0'] = some ⟨true, 0, 0⟩ := rfl
      rw [same, signed, Option.some.injEq] at read
      rw [← read, value_zero, withoutZeroSign_finite] at value
      injection value with _ same
      exact zero (congrArg Fin.val same).symm

end Binary64

end PostfixSheet
