/-! Computations that may fail, taken apart. One in two parts has a result only if both
parts have one, and its fault is that of the first part or, behind a result of the
first, that of the second. -/
namespace PostfixSheet

variable {ε α β : Type}

theorem isOk_iff {check : Except ε Unit} : check.isOk = true ↔ check = .ok () := by
  cases check <;> simp [Except.isOk, Except.toBool]

theorem exists_of_bind_eq_ok {first : Except ε α} {rest : α → Except ε β} {outcome : β}
    (ran : (first >>= rest) = .ok outcome) :
    ∃ value, first = .ok value ∧ rest value = .ok outcome := by
  cases first with
  | error fault => contradiction
  | ok value => exact ⟨value, rfl, ran⟩

/-- A computation in two parts fails in the first or in the second. -/
theorem error_of_bind {first : Except ε α} {next : α → Except ε β} {fault : ε}
    (failed : (first >>= next) = .error fault) :
    first = .error fault ∨ ∃ value, first = .ok value ∧ next value = .error fault := by
  cases first with
  | error found =>
    cases failed
    exact .inl rfl
  | ok value => exact .inr ⟨value, rfl, failed⟩

end PostfixSheet
