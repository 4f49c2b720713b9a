import PostfixSheet.Address.Notation
import Mathlib.Data.List.TakeDrop
import Mathlib.Data.List.TakeWhile

/-! What a written address stands for. Its letters and its digits are numerals, and
every place of a numeral counts as often as the base says what the place to the right
of it counts. Reading goes from left to right and gives up as soon as the number so far
is past the limit. One more place never makes a number smaller, so this happens exactly
if the value of the whole numeral is past the limit, however long the numeral is. -/
namespace PostfixSheet.Address
open Text

attribute [local instance (high)] instPowNat

section numerals

/-- The number that a numeral stands for, place by place. -/
def placeValue (base : Nat) (digit : Char → Nat) : List Char → Nat
  | [] => 0
  | first :: rest => digit first * base ^ rest.length + placeValue base digit rest

variable {base number start : Nat} {digit : Char → Nat} {left right text : List Char}

theorem placeValue_append :
    placeValue base digit (left ++ right) =
      placeValue base digit left * base ^ right.length + placeValue base digit right := by
  induction left with
  | nil => rw [List.nil_append, placeValue, Nat.zero_mul, Nat.zero_add]
  | cons first rest ih =>
    rw [List.cons_append, placeValue, placeValue, ih, List.length_append, Nat.pow_add, Nat.add_mul,
      Nat.mul_assoc, Nat.add_assoc]

theorem placeValue_concat (last : Char) :
    placeValue base digit (text ++ [last]) = placeValue base digit text * base + digit last := by
  rw [placeValue_append, placeValue, placeValue, List.length_nil, Nat.pow_zero, Nat.mul_one,
    List.length_singleton, Nat.pow_one, Nat.add_zero]

/-- Decimal digits are the places of base ten. -/
theorem placeValue_digitValue (text : List Char) :
    placeValue 10 digitValue text = numeralValue text := by
  induction text with
  | nil => rfl
  | cons first rest ih =>
    have step : numeralValue (first :: rest) =
        10 ^ rest.length * digitValue first + numeralValue rest := by
      rw [numeralValue, Nat.ofDigitChars_cons, Nat.mul_zero, Nat.zero_add,
        Nat.ofDigitChars_eq_ofDigitChars_zero]
      rfl
    rw [placeValue, ih, step, Nat.mul_comm]

theorem extend?_eq_some_iff {place : Nat} :
    extend? base start place = some number ↔ start * base + place = number ∧ number ≤ limit := by
  simp only [extend?]
  split
  · rename_i fits
    rw [Option.some.injEq]
    exact ⟨fun same => ⟨same, same ▸ fits⟩, And.left⟩
  · rename_i past
    refine ⟨nofun, fun ⟨same, fits⟩ => ?_⟩
    exact absurd (same ▸ fits) past

/-- Reading gives a number exactly if the value of the whole numeral is in range. -/
theorem foldlM_extend?_eq_some_iff (positive : 0 < base) (fits : start ≤ limit) :
    text.foldlM (fun number char => extend? base number (digit char)) start = some number ↔
      start * base ^ text.length + placeValue base digit text = number ∧ number ≤ limit := by
  induction text generalizing start with
  | nil =>
    rw [List.foldlM_nil, List.length_nil, placeValue, Nat.pow_zero, Nat.mul_one, Nat.add_zero]
    exact ⟨fun same => ⟨Option.some.inj same, Option.some.inj same ▸ fits⟩,
      fun same => congrArg some same.1⟩
  | cons first rest ih =>
    have whole : start * base ^ (first :: rest).length + placeValue base digit (first :: rest) =
        (start * base + digit first) * base ^ rest.length + placeValue base digit rest := by
      rw [placeValue, List.length_cons, Nat.pow_succ', ← Nat.mul_assoc, Nat.add_mul, Nat.add_assoc]
    have grows : start * base + digit first ≤
        (start * base + digit first) * base ^ rest.length :=
      Nat.le_mul_of_pos_right _ (Nat.pow_pos positive)
    simp only [whole, List.foldlM_cons, Option.bind_eq_bind, Option.bind_eq_some_iff,
      extend?_eq_some_iff]
    constructor
    · rintro ⟨_, ⟨rfl, inRange⟩, reads⟩
      exact (ih inRange).mp reads
    · rintro ⟨same, inRange⟩
      have early : start * base + digit first ≤ limit := by omega
      exact ⟨_, ⟨rfl, early⟩, (ih early).mpr ⟨same, inRange⟩⟩

end numerals

/-- The number that the letters of a column stand for: twenty-six letters, no zero. -/
def columnNumber (letters : List Char) : Nat := placeValue 26 letterValue letters

theorem columnNumber?_eq_some_iff {letters : List Char} {number : Nat} :
    columnNumber? letters = some number ↔ columnNumber letters = number ∧ number ≤ limit := by
  rw [columnNumber?, foldlM_extend?_eq_some_iff (by decide) (Nat.zero_le _), Nat.zero_mul,
    Nat.zero_add, columnNumber]

theorem rowNumber?_eq_some_iff {digits : List Char} {number : Nat} :
    rowNumber? digits = some number ↔ numeralValue digits = number ∧ number ≤ limit := by
  rw [rowNumber?, foldlM_extend?_eq_some_iff (by decide) (Nat.zero_le _), Nat.zero_mul,
    Nat.zero_add, placeValue_digitValue]

theorem columnNumber_pos {letters : List Char} (nonempty : letters ≠ []) :
    0 < columnNumber letters := by
  cases letters with
  | nil => exact absurd rfl nonempty
  | cons first rest =>
    have letter : 0 < letterValue first := Nat.succ_pos _
    have place : 0 < 26 ^ rest.length := Nat.pow_pos (by decide)
    exact Nat.add_pos_left (Nat.mul_pos letter place) _

/-- A written address: one or more letters, then one or more digits. -/
structure Parts (text letters digits : List Char) : Prop where
  joined : letters ++ digits = text
  ne_nil : letters ≠ []
  isAlpha : ∀ char ∈ letters, char.isAlpha = true
  isNumeral : Text.isNumeral digits = true

variable {text letters digits : List Char} {address : Address}

theorem isAlpha_iff {char : Char} : char.isAlpha = true ↔
    (65 ≤ char.toNat ∧ char.toNat ≤ 90) ∨ (97 ≤ char.toNat ∧ char.toNat ≤ 122) := by
  change (decide ('A'.val ≤ char.val ∧ char.val ≤ 'Z'.val) ||
    (decide ('a'.val ≤ char.val) && decide (char.val ≤ 'z'.val))) = true ↔ _
  simp only [Bool.or_eq_true, Bool.and_eq_true, decide_eq_true_eq, UInt32.le_iff_toNat_le]
  rfl

theorem isAlpha_eq_false_of_isDigit {char : Char} (digit : char.isDigit = true) :
    char.isAlpha = false := by
  rw [isDigit_iff] at digit
  rw [Bool.eq_false_iff, ne_eq, isAlpha_iff]
  omega

theorem splitLetters_append (alpha : ∀ char ∈ letters, char.isAlpha = true)
    (numeric : ∀ char ∈ digits, char.isDigit = true) :
    splitLetters (letters ++ digits) = (letters, digits) := by
  have stops : digits.takeWhile Char.isAlpha = [] ∧ digits.dropWhile Char.isAlpha = digits := by
    cases digits with
    | nil => exact ⟨rfl, rfl⟩
    | cons first rest =>
      have other := isAlpha_eq_false_of_isDigit (numeric first List.mem_cons_self)
      simp only [List.takeWhile_cons, List.dropWhile_cons, other, Bool.false_eq_true, if_false,
        and_self]
  rw [splitLetters, List.span_eq_takeWhile_dropWhile, List.takeWhile_append_of_pos alpha,
    List.dropWhile_append_of_pos alpha, stops.1, stops.2, List.append_nil]

theorem Parts.splitLetters_eq (parts : Parts text letters digits) :
    splitLetters text = (letters, digits) := by
  rw [← parts.joined]
  exact splitLetters_append parts.isAlpha (isNumeral_iff.mp parts.isNumeral).2

theorem isWritten_iff : isWritten text = true ↔ ∃ letters digits, Parts text letters digits := by
  constructor
  · intro written
    simp only [isWritten, splitLetters, List.span_eq_takeWhile_dropWhile, Bool.and_eq_true,
      Bool.not_eq_true', List.isEmpty_eq_false_iff] at written
    exact ⟨_, _, List.takeWhile_append_dropWhile, written.1, fun _ => List.mem_takeWhile_imp,
      written.2⟩
  · rintro ⟨letters, digits, parts⟩
    simp only [isWritten, parts.splitLetters_eq, parts.isNumeral, Bool.and_true, Bool.not_eq_true',
      List.isEmpty_eq_false_iff]
    exact parts.ne_nil

theorem Parts.isWritten (parts : Parts text letters digits) : isWritten text = true :=
  isWritten_iff.mpr ⟨letters, digits, parts⟩

theorem Parts.ofChars?_eq_some_iff (parts : Parts text letters digits) :
    ofChars? text = some address ↔
      columnNumber letters = address.column + 1 ∧ numeralValue digits = address.row + 1 ∧
        address.column < limit ∧ address.row < limit := by
  have positive := columnNumber_pos parts.ne_nil
  simp only [ofChars?, parts.isWritten, parts.splitLetters_eq, if_true, Option.bind_eq_bind,
    Option.bind_eq_some_iff, columnNumber?_eq_some_iff, rowNumber?_eq_some_iff,
    Option.ite_none_left_eq_some, Option.some.injEq]
  constructor
  · rintro ⟨column, ⟨rfl, columnFits⟩, row, ⟨rfl, rowFits⟩, nonzero, rfl⟩
    dsimp only
    omega
  · rintro ⟨column, row, columnFits, rowFits⟩
    refine ⟨_, ⟨rfl, by omega⟩, _, ⟨rfl, by omega⟩, by omega, ?_⟩
    rw [column, row, Nat.add_sub_cancel, Nat.add_sub_cancel]

/-- Only written addresses are read, and only if both numbers are in range. -/
theorem ofChars?_eq_some_iff :
    ofChars? text = some address ↔ ∃ letters digits, Parts text letters digits ∧
      columnNumber letters = address.column + 1 ∧ numeralValue digits = address.row + 1 ∧
        address.column < limit ∧ address.row < limit := by
  constructor
  · intro read
    have written : isWritten text = true := by
      by_contra unwritten
      rw [ofChars?, if_neg unwritten] at read
      contradiction
    obtain ⟨letters, digits, parts⟩ := isWritten_iff.mp written
    exact ⟨letters, digits, parts, parts.ofChars?_eq_some_iff.mp read⟩
  · rintro ⟨letters, digits, parts, numbers⟩
    exact parts.ofChars?_eq_some_iff.mpr numbers

end PostfixSheet.Address
