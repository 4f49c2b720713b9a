/-! Closed ranges of code points. A table of a character property is a list of
such ranges, so that membership is one look-up rule for every property. -/
namespace PostfixSheet.Text

structure CodeRange where
  first : Nat
  last : Nat
deriving DecidableEq, Repr

namespace CodeRange

def holds (range : CodeRange) (char : Char) : Bool :=
  range.first ≤ char.toNat && char.toNat ≤ range.last

end CodeRange

def inRanges (ranges : List CodeRange) (char : Char) : Bool :=
  ranges.any (·.holds char)

theorem inRanges_iff {ranges : List CodeRange} {char : Char} :
    inRanges ranges char = true ↔
      ∃ range ∈ ranges, range.first ≤ char.toNat ∧ char.toNat ≤ range.last := by
  simp [inRanges, CodeRange.holds]

end PostfixSheet.Text
