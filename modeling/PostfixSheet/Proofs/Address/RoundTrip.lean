import PostfixSheet.Proofs.Formula.Grammar
import Mathlib.Data.List.Induction

/-! Writing an address and reading it. The letters of a column number are the one run of
capital letters that stands for it, since the last letter is fixed by the number and
the others stand for what is left of it; in the same way the digits of a row number are
the one numeral for it without leading zeros. So an address that is in range is read
back from its text, and a text that is read is the text of its address up to the case of
its letters and the leading zeros of its digits. -/
namespace PostfixSheet

namespace Text

attribute [local instance (high)] instPowNat

variable {digits : List Char}

theorem numeralValue_concat (last : Char) :
    numeralValue (digits ++ [last]) = numeralValue digits * 10 + digitValue last := by
  simp only [← Address.placeValue_digitValue, Address.placeValue_concat]

theorem digitValue_of_isDigit {char : Char} (digit : char.isDigit = true) :
    digitValue char < 10 ∧ (digitValue char).digitChar = char ∧
      (digitValue char = 0 ↔ char = '0') := by
  have all : ∀ code < 58, (Char.ofNat code).isDigit = true →
      digitValue (Char.ofNat code) < 10 ∧
        (digitValue (Char.ofNat code)).digitChar = Char.ofNat code ∧
        (digitValue (Char.ofNat code) = 0 ↔ Char.ofNat code = '0') := by decide
  have code := isDigit_iff.mp digit
  have here := all char.toNat (by omega)
  rw [Char.ofNat_toNat] at here
  exact here digit

/-- A numeral without its leading zeros. -/
def dropZeros (digits : List Char) : List Char := digits.dropWhile (· == '0')

theorem numeralValue_dropZeros (digits : List Char) :
    numeralValue (dropZeros digits) = numeralValue digits := by
  induction digits with
  | nil => rfl
  | cons first rest ih =>
    by_cases zero : first = '0'
    · subst zero
      exact ih
    · rw [dropZeros, List.dropWhile_cons_of_neg (by simpa using zero)]

theorem numeral_mul_ten_add {front place : Nat} (positive : 0 < front) (digit : place < 10) :
    numeral (front * 10 + place) = numeral front ++ [place.digitChar] := by
  have before : (front * 10 + place) / 10 = front := by omega
  have last : (front * 10 + place) % 10 = place := by omega
  rw [numeral, Nat.toDigits_of_base_le (by decide) (by omega), before, last, numeral]

/-- Without its leading zeros a numeral is the shortest one of its value; for zero
nothing is left. -/
theorem dropZeros_eq (numeric : ∀ char ∈ digits, char.isDigit = true) :
    dropZeros digits =
      if numeralValue digits = 0 then [] else numeral (numeralValue digits) := by
  induction digits using List.reverseRecOn with
  | nil => rfl
  | append_singleton before last ih =>
    obtain ⟨small, same, zero⟩ := digitValue_of_isDigit (numeric last (by simp))
    specialize ih fun char member => numeric char (List.mem_append_left _ member)
    rw [dropZeros] at ih
    rw [dropZeros, List.dropWhile_append, numeralValue_concat, ih]
    rcases Nat.eq_zero_or_pos (numeralValue before) with onlyZeros | positive
    · rw [if_pos onlyZeros, List.isEmpty_nil, if_pos rfl, onlyZeros, Nat.zero_mul, Nat.zero_add]
      by_cases nothing : last = '0'
      · subst nothing
        rfl
      · have digit : numeral (digitValue last) = [(digitValue last).digitChar] :=
          Nat.toDigits_of_lt_base small
        rw [if_neg (mt zero.mp nothing), digit, same,
          List.dropWhile_cons_of_neg (by simpa using nothing)]
    · have written : (numeral (numeralValue before)).isEmpty = false :=
        List.isEmpty_eq_false_iff.mpr Nat.toDigits_ne_nil
      have nonzero : numeralValue before * 10 + digitValue last ≠ 0 := by omega
      rw [if_neg positive.ne', written, if_neg Bool.false_ne_true, if_neg nonzero,
        numeral_mul_ten_add positive small, same]

end Text

namespace Address
open Text

variable {letters digits : List Char} {address : Address}

section letters

theorem columnNumber_concat (last : Char) :
    columnNumber (letters ++ [last]) = columnNumber letters * 26 + letterValue last :=
  placeValue_concat last

theorem toUpper_of_isAlpha {char : Char} (letter : char.isAlpha = true) :
    65 ≤ char.toUpper.toNat ∧ char.toUpper.toNat ≤ 90 ∧
      char.toUpper.toUpper = char.toUpper := by
  have all : ∀ code < 123, (Char.ofNat code).isAlpha = true →
      65 ≤ (Char.ofNat code).toUpper.toNat ∧ (Char.ofNat code).toUpper.toNat ≤ 90 ∧
        (Char.ofNat code).toUpper.toUpper = (Char.ofNat code).toUpper := by decide
  have code := isAlpha_iff.mp letter
  have here := all char.toNat (by omega)
  rw [Char.ofNat_toNat] at here
  exact here letter

theorem capital_letterValue {char : Char} (letter : char.isAlpha = true) :
    letterValue char ≤ 26 ∧ capital (letterValue char - 1) = char.toUpper := by
  obtain ⟨first, last, _⟩ := toUpper_of_isAlpha letter
  have code : 'A'.toNat = 65 := rfl
  have place : 'A'.toNat + (letterValue char - 1) = char.toUpper.toNat := by
    rw [letterValue]
    omega
  constructor
  · omega
  · rw [capital, place, Char.ofNat_toNat]

theorem capital_of_lt {place : Nat} (inside : place < 26) :
    letterValue (capital place) = place + 1 ∧ (capital place).isAlpha = true := by
  have all : ∀ place < 26,
      letterValue (capital place) = place + 1 ∧ (capital place).isAlpha = true := by decide
  exact all place inside

theorem isAlpha_of_mem_map_toUpper (alpha : ∀ char ∈ letters, char.isAlpha = true) {char : Char}
    (member : char ∈ letters.map Char.toUpper) : char.isAlpha = true := by
  obtain ⟨letter, inside, rfl⟩ := List.mem_map.mp member
  obtain ⟨first, last, _⟩ := toUpper_of_isAlpha (alpha letter inside)
  exact isAlpha_iff.mpr (.inl ⟨first, last⟩)

theorem columnNumber_map_toUpper (alpha : ∀ char ∈ letters, char.isAlpha = true) :
    columnNumber (letters.map Char.toUpper) = columnNumber letters := by
  induction letters using List.reverseRecOn with
  | nil => rfl
  | append_singleton before last ih =>
    have same : letterValue last.toUpper = letterValue last := by
      rw [letterValue, letterValue, (toUpper_of_isAlpha (alpha last (by simp))).2.2]
    rw [List.map_append, List.map_singleton, columnNumber_concat, columnNumber_concat, same,
      ih fun char member => alpha char (List.mem_append_left _ member)]

theorem columnNumber_columnLetters (number : Nat) :
    columnNumber (columnLetters number) = number := by
  induction number using Nat.strongRecOn with
  | _ number ih =>
    cases number with
    | zero => rw [columnLetters]; rfl
    | succ below =>
      have place := (capital_of_lt (Nat.mod_lt below (by decide : 0 < 26))).1
      rw [columnLetters, columnNumber_concat, ih _ (by omega), place]
      omega

theorem isAlpha_of_mem_columnLetters {number : Nat} {char : Char}
    (member : char ∈ columnLetters number) : char.isAlpha = true := by
  induction number using Nat.strongRecOn with
  | _ number ih =>
    cases number with
    | zero =>
      rw [columnLetters] at member
      contradiction
    | succ below =>
      rw [columnLetters, List.mem_append, List.mem_singleton] at member
      rcases member with earlier | rfl
      · exact ih _ (by omega) earlier
      · exact (capital_of_lt (Nat.mod_lt below (by decide))).2

/-- The letters of a column number are those that it was read from, as capitals. -/
theorem columnLetters_columnNumber (alpha : ∀ char ∈ letters, char.isAlpha = true) :
    columnLetters (columnNumber letters) = letters.map Char.toUpper := by
  induction letters using List.reverseRecOn with
  | nil => exact columnLetters.eq_1
  | append_singleton before last ih =>
    obtain ⟨small, isCapital⟩ := capital_letterValue (alpha last (by simp))
    have positive : 0 < letterValue last := Nat.succ_pos _
    have number : columnNumber (before ++ [last]) =
        columnNumber before * 26 + (letterValue last - 1) + 1 := by
      rw [columnNumber_concat]
      omega
    have front : (columnNumber before * 26 + (letterValue last - 1)) / 26 =
        columnNumber before := by omega
    have place : (columnNumber before * 26 + (letterValue last - 1)) % 26 =
        letterValue last - 1 := by omega
    rw [number, columnLetters, front, place, isCapital,
      ih fun char member => alpha char (List.mem_append_left _ member), List.map_append,
      List.map_singleton]

end letters

variable {text other : String}

theorem parts_toChars (address : Address) :
    Parts address.toChars (columnLetters (address.column + 1)) (numeral (address.row + 1)) where
  joined := rfl
  ne_nil := by
    rw [columnLetters]
    exact List.append_ne_nil_of_right_ne_nil _ (List.cons_ne_nil _ _)
  isAlpha _ := isAlpha_of_mem_columnLetters
  isNumeral := isNumeral_numeral _

theorem ofText?_text (columnFits : address.column < limit) (rowFits : address.row < limit) :
    ofText? address.text = some address := by
  rw [ofText?, text, String.toList_ofList]
  exact ofChars?_eq_some_iff.mpr ⟨_, _, parts_toChars address, columnNumber_columnLetters _,
    numeralValue_numeral _, columnFits, rowFits⟩

/-- The text with capital letters and without leading zeros in its digits. -/
def canonical (text : String) : String :=
  let (letters, digits) := splitLetters text.toList
  String.ofList (letters.map Char.toUpper ++ dropZeros digits)

theorem Parts.toList_canonical (parts : Parts text.toList letters digits) :
    (canonical text).toList = letters.map Char.toUpper ++ dropZeros digits := by
  simp only [canonical, parts.splitLetters_eq, String.toList_ofList]

theorem text_of_ofText? (read : ofText? text = some address) : address.text = canonical text := by
  obtain ⟨letters, digits, parts, column, row, _⟩ := ofChars?_eq_some_iff.mp read
  have nonzero : numeralValue digits ≠ 0 := by omega
  apply String.toList_inj.mp
  rw [parts.toList_canonical, Address.text, String.toList_ofList, toChars, ← column, ← row,
    columnLetters_columnNumber parts.isAlpha, dropZeros_eq (isNumeral_iff.mp parts.isNumeral).2,
    if_neg nonzero]

theorem Parts.splitLetters_canonical (parts : Parts text.toList letters digits) :
    splitLetters (canonical text).toList = (letters.map Char.toUpper, dropZeros digits) := by
  rw [parts.toList_canonical]
  refine splitLetters_append (fun _ => isAlpha_of_mem_map_toUpper parts.isAlpha) ?_
  intro char member
  exact (isNumeral_iff.mp parts.isNumeral).2 char (List.dropWhile_subset _ member)

/-- Two texts of the shape with one canonical form stand for the same numbers. -/
theorem Parts.numbers_eq {otherLetters otherDigits : List Char}
    (parts : Parts text.toList letters digits)
    (others : Parts other.toList otherLetters otherDigits)
    (same : canonical other = canonical text) :
    columnNumber otherLetters = columnNumber letters ∧
      numeralValue otherDigits = numeralValue digits := by
  have pair := others.splitLetters_canonical
  rw [same, parts.splitLetters_canonical, Prod.mk.injEq] at pair
  constructor
  · rw [← columnNumber_map_toUpper others.isAlpha, ← pair.1, columnNumber_map_toUpper parts.isAlpha]
  · rw [← numeralValue_dropZeros otherDigits, ← pair.2, numeralValue_dropZeros]

/-- A text is read exactly if it is letters and then digits and both numbers are in
range, however many letters or leading zeros it has. The address is the two numbers,
counted from zero, and the text is a single token, a reference. -/
theorem ofText?_eq_some_iff_inRange :
    (ofText? text = some address ↔ ∃ letters digits, Parts text.toList letters digits ∧
      columnNumber letters ≤ limit ∧ 0 < numeralValue digits ∧ numeralValue digits ≤ limit ∧
      address = ⟨columnNumber letters - 1, numeralValue digits - 1⟩) ∧
    (ofText? text = some address → Token.ofExpression text = [.reference text]) := by
  refine ⟨⟨fun read => ?_, ?_⟩, fun read => ?_⟩
  · obtain ⟨letters, digits, parts, column, row, columnFits, rowFits⟩ :=
      ofChars?_eq_some_iff.mp read
    refine ⟨letters, digits, parts, by omega, by omega, by omega, ?_⟩
    rw [column, row, Nat.add_sub_cancel, Nat.add_sub_cancel]
  · rintro ⟨letters, digits, parts, columnFits, positive, rowFits, rfl⟩
    have columnPositive := columnNumber_pos parts.ne_nil
    exact ofChars?_eq_some_iff.mpr
      ⟨letters, digits, parts, (Nat.sub_add_cancel columnPositive).symm,
        (Nat.sub_add_cancel positive).symm, Nat.sub_one_lt_of_le columnPositive columnFits,
        Nat.sub_one_lt_of_le positive rowFits⟩
  · obtain ⟨_, _, parts, _⟩ := ofChars?_eq_some_iff.mp read
    rw [Token.ofExpression_of_visible parts.isVisible, Token.ofWord_of_parts parts,
      String.ofList_toList]

/-- The last column and the last row, in small letters and with two leading zeros. One
more in either of the two numbers is out of range. -/
theorem ofText?_eq_some_iff_inRange_last :
    ofText? "gkgwbylwrxtlpo0018446744073709551615" =
        some ⟨18446744073709551614, 18446744073709551614⟩ ∧
      Token.ofExpression "gkgwbylwrxtlpo0018446744073709551615" =
        [.reference "gkgwbylwrxtlpo0018446744073709551615"] ∧
      ofText? "gkgwbylwrxtlpp1" = none ∧ ofText? "a18446744073709551616" = none := by
  have read : ofText? "gkgwbylwrxtlpo0018446744073709551615" =
      some ⟨18446744073709551614, 18446744073709551614⟩ := by decide +kernel
  exact ⟨read, ofText?_eq_some_iff_inRange.2 read, by decide +kernel, by decide +kernel⟩

/-- Every address in range is read back from its text. A text that is read stands for an
address in range, whose text is the canonical form of the text that was read. The texts
that stand for one address are those of the shape that have one canonical form. -/
theorem text_eq_canonical :
    (∀ address : Address, address.column < limit → address.row < limit →
      ofText? address.text = some address) ∧
    ∀ (text : String) (address : Address), ofText? text = some address →
      address.column + 1 ≤ limit ∧ address.row + 1 ≤ limit ∧ address.text = canonical text ∧
      ∀ other, ofText? other = some address ↔
        (∃ letters digits, Parts other.toList letters digits) ∧
          canonical other = canonical text := by
  refine ⟨fun address => ofText?_text, fun text address read => ?_⟩
  obtain ⟨letters, digits, parts, column, row, columnFits, rowFits⟩ :=
    ofChars?_eq_some_iff.mp read
  refine ⟨columnFits, rowFits, text_of_ofText? read, fun other => ⟨fun readOther => ?_, ?_⟩⟩
  · obtain ⟨_, _, others, _⟩ := ofChars?_eq_some_iff.mp readOther
    exact ⟨⟨_, _, others⟩, (text_of_ofText? readOther).symm.trans (text_of_ofText? read)⟩
  · rintro ⟨⟨_, _, others⟩, same⟩
    obtain ⟨columns, rows⟩ := parts.numbers_eq others same
    exact ofChars?_eq_some_iff.mpr
      ⟨_, _, others, columns.trans column, rows.trans row, columnFits, rowFits⟩

/-- The last column, and two texts for it that differ in case and leading zeros. -/
theorem text_eq_canonical_last_column :
    let address : Address := ⟨18446744073709551614, 6⟩
    ofText? address.text = some address ∧ ofText? "gkgwBYLWRXTLPO007" = some address ∧
      address.text = canonical "gkgwBYLWRXTLPO007" ∧
      canonical "gkgwBYLWRXTLPO007" = "GKGWBYLWRXTLPO7" ∧
      ofText? "GKGWbylwrxtlpo07" = some address := by
  intro address
  obtain ⟨reads, writes⟩ := text_eq_canonical
  have read : ofText? "gkgwBYLWRXTLPO007" = some address := by decide +kernel
  obtain ⟨_, _, isText, others⟩ := writes _ _ read
  have written : isWritten "GKGWbylwrxtlpo07".toList = true := by decide +kernel
  have same : canonical "GKGWbylwrxtlpo07" = canonical "gkgwBYLWRXTLPO007" := by decide +kernel
  exact ⟨reads address (by decide) (by decide), read, isText, by decide +kernel,
    (others _).mpr ⟨isWritten_iff.mp written, same⟩⟩

end Address

end PostfixSheet
