import PostfixSheet.Formula.Evaluation
import PostfixSheet.Proofs.Number.Zeros
import Mathlib.Data.List.Forall2

/-! Two runs of postfix expressions side by side. The stacks hold numbers that are
alike, and each pair of tokens keeps them so or fails with the same fault; then the
results are alike or both runs fail. Equal tokens do this if the references among
them look up values that are alike, and so does a reference beside the literal of the
number that it looks up, whatever the sign of a zero. -/
namespace PostfixSheet

/-- The same value, but for the sign of a zero. -/
inductive Value.Alike : Value → Value → Prop where
  | number {left right : Binary64} (alike : left.Alike right) : Alike (.number left) (.number right)
  | error : Alike .error .error

namespace Value.Alike

variable {left right : Value}

theorem display_eq (alike : Alike left right) (marker : String) :
    left.display marker = right.display marker := by
  cases alike with
  | number numbers => exact numbers.text_eq
  | error => rfl

end Value.Alike

namespace Formula
open Binary64

/-- Both computations give results that are related, or both fail with one fault. -/
inductive Outcomes {α β : Type} (Related : α → β → Prop) :
    Except Fault α → Except Fault β → Prop where
  | ok {left : α} {right : β} (related : Related left right) :
      Outcomes Related (.ok left) (.ok right)
  | error (fault : Fault) : Outcomes Related (.error fault) (.error fault)

theorem Outcomes.bind {α β γ δ : Type} {First : α → β → Prop} {Second : γ → δ → Prop}
    {left : Except Fault α} {right : Except Fault β} {thenLeft : α → Except Fault γ}
    {thenRight : β → Except Fault δ} (first : Outcomes First left right)
    (second : ∀ a b, First a b → Outcomes Second (thenLeft a) (thenRight b)) :
    Outcomes Second (left >>= thenLeft) (right >>= thenRight) := by
  cases first with
  | ok related => exact second _ _ related
  | error fault => exact .error fault

variable {lookup other : Address → Option Value} {left right below belowToo : Binary64}
  {stack stackToo : List Binary64} {token tokenToo : Token} {tokens tokensToo : List Token}

theorem requireFinite_alike (alike : left.Alike right) :
    Outcomes Alike (requireFinite left) (requireFinite right) := by
  unfold requireFinite
  rw [alike.isFinite_eq]
  split
  · exact .ok alike
  · exact .error .nonFinite

theorem operate_alike (kind : Operator) (under : below.Alike belowToo) (top : left.Alike right) :
    Outcomes Alike (operate kind below left) (operate kind belowToo right) := by
  cases kind with
  | add => exact requireFinite_alike (under.add top)
  | subtract => exact requireFinite_alike (under.sub top)
  | multiply => exact requireFinite_alike (under.mul top)
  | divide =>
    simp only [operate, ← top.isZero_eq]
    split
    · exact .error .divisionByZero
    · rename_i nonzero
      exact requireFinite_alike (under.div top (by simpa using nonzero))

/-- On stacks that are alike the tokens leave stacks that are alike, or fail both. -/
def ActAlike (lookup other : Address → Option Value) (token tokenToo : Token) : Prop :=
  ∀ stack stackToo, List.Forall₂ Alike stack stackToo →
    Outcomes (List.Forall₂ Alike) (step lookup stack token) (step other stackToo tokenToo)

theorem Outcomes.push {first : Except Fault Binary64} {second : Except Fault Binary64}
    (tops : Outcomes Alike first second) (pairs : List.Forall₂ Alike stack stackToo) :
    Outcomes (List.Forall₂ Alike) (do return (← first) :: stack)
      (do return (← second) :: stackToo) :=
  tops.bind fun _ _ alike => .ok (.cons alike pairs)

theorem resolve_alike (text : String)
    (looked : ∀ address, Address.ofText? text = some address →
      Option.Rel Value.Alike (lookup address) (other address)) :
    Outcomes Alike (resolve lookup text) (resolve other text) := by
  unfold resolve
  split
  · exact .error (.outOfBounds text)
  · rename_i address decoded
    have related := looked address decoded
    generalize lookup address = here at related
    generalize other address = there at related
    cases related with
    | none => exact .error (.outOfBounds text)
    | some alike =>
      cases alike with
      | number numbers => exact .ok numbers
      | error => exact .error (.propagated address)

/-- A token acts like itself where its reference looks up values that are alike. -/
theorem actAlike_self (token : Token)
    (looked : ∀ text address, token = .reference text → Address.ofText? text = some address →
      Option.Rel Value.Alike (lookup address) (other address)) :
    ActAlike lookup other token token := by
  intro stack stackToo pairs
  cases token with
  | number value => exact (requireFinite_alike (alike_refl value)).push pairs
  | reference text => exact (resolve_alike text fun address => looked text address rfl).push pairs
  | invalid text => exact .error (.invalidToken text)
  | operator kind =>
    cases pairs with
    | nil => exact .error .stackUnderflow
    | cons top rest =>
      cases rest with
      | nil => exact .error .stackUnderflow
      | cons under rest => exact (operate_alike kind under top).push rest

/-- A reference acts like a number that is alike the one that it looks up. -/
theorem actAlike_number {text : String} {address : Address} {number : Binary64}
    (decoded : Address.ofText? text = some address)
    (looked : lookup address = some (.number number)) (alike : number.Alike right)
    (finite : right.isFinite = true) : ActAlike lookup other (.reference text) (.number right) := by
  intro stack stackToo pairs
  have resolved : resolve lookup text = .ok number := by
    simp only [resolve, decoded, looked]
  have passed : requireFinite right = .ok right := if_pos finite
  simp only [step, resolved, passed]
  exact (Outcomes.ok alike).push pairs

theorem foldlM_step_alike (acts : List.Forall₂ (ActAlike lookup other) tokens tokensToo)
    (pairs : List.Forall₂ Alike stack stackToo) :
    Outcomes (List.Forall₂ Alike) (tokens.foldlM (step lookup) stack)
      (tokensToo.foldlM (step other) stackToo) := by
  induction acts generalizing stack stackToo with
  | nil => exact .ok pairs
  | cons act _ ih =>
    rw [List.foldlM_cons, List.foldlM_cons]
    exact (act stack stackToo pairs).bind fun _ _ => ih

theorem evaluateTokens_alike (acts : List.Forall₂ (ActAlike lookup other) tokens tokensToo) :
    Outcomes Alike (evaluateTokens lookup tokens) (evaluateTokens other tokensToo) := by
  refine (foldlM_step_alike acts .nil).bind fun final finalToo pairs => ?_
  cases pairs with
  | nil => exact .error (.malformed 0)
  | cons top rest =>
    cases rest with
    | nil => exact .ok top
    | cons under rest =>
      simp only [List.length_cons, rest.length_eq]
      exact .error _

end Formula

end PostfixSheet
