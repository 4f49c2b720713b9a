import PostfixSheet.Address.Basic
import PostfixSheet.Text.Digits

/-! Written addresses: letters for the column, then digits for the row, both
counted from one. Letters are a bijective numeral of base twenty-six with `A` for
one and no zero, in either case; digits may have leading zeros. Both numbers are
limited to sixty-four bits, and row zero does not exist. The written form of an
address has capital letters and no leading zeros. -/
namespace PostfixSheet.Address
open Text

attribute [local instance (high)] instPowNat

/-- The greatest column and row numbers, counted from one. -/
def limit : Nat := 2 ^ (64 : Nat) - 1

/-- One step of reading a numeral: stops as soon as the number passes the limit. -/
def extend? (base number digit : Nat) : Option Nat :=
  let extended := number * base + digit
  if extended ≤ limit then some extended else none

/-- A letter's place in the alphabet, counted from one. -/
def letterValue (char : Char) : Nat := char.toUpper.toNat - 'A'.toNat + 1

/-- The capital letter at a place of the alphabet, counted from zero. -/
def capital (place : Nat) : Char := Char.ofNat ('A'.toNat + place)

def columnNumber? (letters : List Char) : Option Nat :=
  letters.foldlM (fun number letter => extend? 26 number (letterValue letter)) 0

def rowNumber? (digits : List Char) : Option Nat :=
  digits.foldlM (fun number digit => extend? 10 number (digitValue digit)) 0

/-- The letters of a column number, counted from one; nothing stands for zero. -/
def columnLetters : Nat → List Char
  | 0 => []
  | below + 1 => columnLetters (below / 26) ++ [capital (below % 26)]
termination_by number => number
decreasing_by omega

def splitLetters (text : List Char) : List Char × List Char := text.span Char.isAlpha

/-- One or more letters and then one or more digits, and nothing else. -/
def isWritten (text : List Char) : Bool :=
  let (letters, digits) := splitLetters text
  !letters.isEmpty && isNumeral digits

def ofChars? (text : List Char) : Option Address :=
  if isWritten text then do
    let (letters, digits) := splitLetters text
    let column ← columnNumber? letters
    let row ← rowNumber? digits
    if column = 0 ∨ row = 0 then none else some ⟨column - 1, row - 1⟩
  else none

def ofText? (text : String) : Option Address := ofChars? text.toList

def toChars (address : Address) : List Char :=
  columnLetters (address.column + 1) ++ numeral (address.row + 1)

def text (address : Address) : String := String.ofList address.toChars

instance : ToString Address := ⟨text⟩

end PostfixSheet.Address
