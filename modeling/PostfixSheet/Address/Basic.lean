/-! Cell addresses: a column and a row, both counted from zero. Addresses are
ordered by row first, which is the order in which a sheet lists its cells. -/
namespace PostfixSheet

structure Address where
  column : Nat
  row : Nat
deriving DecidableEq, Repr

namespace Address

instance : LT Address :=
  ⟨fun left right => left.row < right.row ∨ left.row = right.row ∧ left.column < right.column⟩

theorem lt_def {left right : Address} :
    left < right ↔ left.row < right.row ∨ left.row = right.row ∧ left.column < right.column :=
  Iff.rfl

instance (left right : Address) : Decidable (left < right) :=
  decidable_of_iff' _ lt_def

theorem lt_irrefl (address : Address) : ¬address < address := by
  simp only [lt_def]
  omega

theorem lt_trans {first second third : Address} (low : first < second) (high : second < third) :
    first < third := by
  simp only [lt_def] at *
  omega

/-- Two addresses are ordered one way or the other, or they are the same. -/
theorem lt_or_lt_or_eq (left right : Address) : left < right ∨ right < left ∨ left = right := by
  obtain ⟨leftColumn, leftRow⟩ := left
  obtain ⟨rightColumn, rightRow⟩ := right
  simp only [lt_def, Address.mk.injEq]
  omega

theorem eq_of_not_lt {left right : Address} (notLow : ¬left < right) (notHigh : ¬right < left) :
    left = right := by
  rcases lt_or_lt_or_eq left right with low | high | same
  · exact absurd low notLow
  · exact absurd high notHigh
  · exact same

end Address

end PostfixSheet
