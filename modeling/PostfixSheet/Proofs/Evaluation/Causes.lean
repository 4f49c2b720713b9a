import PostfixSheet.Formula.Evaluation
import PostfixSheet.Proofs.Attempts

/-! Why an expression fails. A fault is of the calculation itself, or it comes
from one of the tokens: a word that means nothing, or a reference that did not
bring in a number. A self-reference and a cycle are never found in computing. -/
namespace PostfixSheet

/-- A fault of the calculation itself, whatever the words and the other cells are. -/
def Fault.OfCalculation : Fault → Prop
  | .stackUnderflow | .malformed _ | .divisionByZero | .nonFinite => True
  | .invalidToken _ | .selfReference | .outOfBounds _ | .cycle _ | .propagated _ => False

namespace Formula

variable {lookup : Address → Option Value} {tokens : List Token} {token : Token} {fault : Fault}

/-- The token by itself brings about the fault. -/
def Causes (lookup : Address → Option Value) (token : Token) (fault : Fault) : Prop :=
  (∃ text, token = .invalid text ∧ fault = .invalidToken text) ∨
    ∃ text, token = .reference text ∧ resolve lookup text = .error fault

theorem eq_nonFinite_of_requireFinite {number : Binary64}
    (failed : requireFinite number = .error fault) : fault = .nonFinite := by
  unfold requireFinite at failed
  split at failed
  · contradiction
  · exact (Except.error.inj failed).symm

theorem fault_of_operate {kind : Operator} {left right : Binary64}
    (failed : operate kind left right = .error fault) :
    fault = .divisionByZero ∨ fault = .nonFinite := by
  cases kind with
  | add => exact .inr (eq_nonFinite_of_requireFinite failed)
  | subtract => exact .inr (eq_nonFinite_of_requireFinite failed)
  | multiply => exact .inr (eq_nonFinite_of_requireFinite failed)
  | divide =>
    simp only [operate] at failed
    split at failed
    · exact .inl (Except.error.inj failed).symm
    · exact .inr (eq_nonFinite_of_requireFinite failed)

theorem fault_of_resolve {text : String} (failed : resolve lookup text = .error fault) :
    fault = .outOfBounds text ∨ ∃ address, fault = .propagated address := by
  unfold resolve at failed
  split at failed
  · exact .inl (Except.error.inj failed).symm
  · split at failed
    · exact .inl (Except.error.inj failed).symm
    · exact .inr ⟨_, (Except.error.inj failed).symm⟩
    · contradiction

theorem cause_of_step {stack : List Binary64} (failed : step lookup stack token = .error fault) :
    fault.OfCalculation ∨ Causes lookup token fault := by
  cases token with
  | number value =>
    rcases error_of_bind failed with literal | ⟨_, _, pushed⟩
    · obtain rfl := eq_nonFinite_of_requireFinite literal
      exact .inl trivial
    · cases pushed
  | reference text =>
    rcases error_of_bind failed with resolved | ⟨_, _, pushed⟩
    · exact .inr (.inr ⟨text, rfl, resolved⟩)
    · cases pushed
  | invalid text =>
    cases failed
    exact .inr (.inl ⟨text, rfl, rfl⟩)
  | operator kind =>
    left
    simp only [step] at failed
    split at failed
    · rcases error_of_bind failed with result | ⟨_, _, pushed⟩
      · rcases fault_of_operate result with rfl | rfl <;> trivial
      · cases pushed
    · cases failed
      trivial

theorem cause_of_foldlM {stack : List Binary64}
    (failed : tokens.foldlM (step lookup) stack = .error fault) :
    fault.OfCalculation ∨ ∃ token ∈ tokens, Causes lookup token fault := by
  induction tokens generalizing stack with
  | nil => cases failed
  | cons token tokens ih =>
    rw [List.foldlM_cons] at failed
    rcases error_of_bind failed with first | ⟨next, _, rest⟩
    · exact (cause_of_step first).imp_right fun causes => ⟨token, List.mem_cons_self, causes⟩
    · refine (ih rest).imp_right ?_
      rintro ⟨later, member, causes⟩
      exact ⟨later, List.mem_cons_of_mem _ member, causes⟩

theorem cause_of_evaluateTokens (failed : evaluateTokens lookup tokens = .error fault) :
    fault.OfCalculation ∨ ∃ token ∈ tokens, Causes lookup token fault := by
  rcases error_of_bind failed with stopped | ⟨stack, _, atEnd⟩
  · exact cause_of_foldlM stopped
  · left
    split at atEnd
    · cases atEnd
    · cases atEnd
      trivial

/-- A reference to a cell that has a value fails only by passing on its error. -/
theorem resolve_of_value {text : String} {target : Address} {value : Value}
    (decoded : Address.ofText? text = some target) (held : lookup target = some value)
    (failed : resolve lookup text = .error fault) :
    value = .error ∧ fault = .propagated target := by
  simp only [resolve, decoded, held] at failed
  cases value with
  | number number => cases failed
  | error =>
    cases failed
    exact ⟨rfl, rfl⟩

end Formula

end PostfixSheet
