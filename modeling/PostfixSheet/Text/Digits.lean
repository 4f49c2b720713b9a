/-! Decimal numerals over the ten ASCII digits: their shape, their value and
the numeral of a natural number. Leading zeros do not change a value. -/
namespace PostfixSheet.Text

/-- One or more ASCII digits. -/
def isNumeral (text : List Char) : Bool := !text.isEmpty && text.all Char.isDigit

def digitValue (char : Char) : Nat := char.toNat - '0'.toNat

/-- The value of a numeral; meaningful where `isNumeral` holds. -/
def numeralValue (text : List Char) : Nat := Nat.ofDigitChars 10 text 0

/-- The shortest numeral of a number. -/
def numeral (n : Nat) : List Char := Nat.toDigits 10 n

theorem isDigit_iff {char : Char} : char.isDigit = true ↔ 48 ≤ char.toNat ∧ char.toNat ≤ 57 := by
  simp only [Char.isDigit, Bool.and_eq_true, decide_eq_true_eq, ge_iff_le, UInt32.le_iff_toNat_le]
  rfl

theorem isNumeral_iff {text : List Char} :
    isNumeral text = true ↔ text ≠ [] ∧ ∀ char ∈ text, char.isDigit = true := by
  simp [isNumeral, List.isEmpty_eq_false_iff]

theorem isNumeral_numeral (n : Nat) : isNumeral (numeral n) = true :=
  isNumeral_iff.mpr ⟨Nat.toDigits_ne_nil,
    fun _ member => Nat.isDigit_of_mem_toDigits (by decide) (by decide) member⟩

theorem numeralValue_numeral (n : Nat) : numeralValue (numeral n) = n :=
  Nat.ofDigitChars_ten_toDigits

end PostfixSheet.Text
