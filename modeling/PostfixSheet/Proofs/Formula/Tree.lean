import PostfixSheet.Proofs.Evaluation.Causes
import Mathlib.Data.List.Forall2

/-! Postfix notation as a notation for trees. A tree lists its left part, its right
part and then its operator, and has a meaning of its own by recursion. Running the
listing of a tree puts its meaning on the stack, whatever is below and whatever
follows, or stops with its fault. In the other direction the tokens themselves build a
stack of trees, one for every number that a run has on its stack; this reads every
listing back, so a listing has one tree. -/
namespace PostfixSheet

/-- The number that an operation comes to, rounded and not yet checked. -/
def Operator.apply : Operator → Binary64 → Binary64 → Binary64
  | .add, left, right => left + right
  | .subtract, left, right => left - right
  | .multiply, left, right => left * right
  | .divide, left, right => left / right

namespace Formula

/-- An expression as it is meant. -/
inductive Tree where
  | literal (value : Binary64)
  | reference (text : String)
  | operation (kind : Operator) (left right : Tree)
deriving DecidableEq

namespace Tree

/-- The postfix listing: both parts, and then the operator. -/
def tokens : Tree → List Token
  | .literal value => [.number value]
  | .reference text => [.reference text]
  | .operation kind left right => left.tokens ++ right.tokens ++ [.operator kind]

/-- What a tree comes to, given the values of the cells. The left part is computed
first, so its fault is the one that counts. -/
def meaning (lookup : Address → Option Value) : Tree → Except Fault Binary64
  | .literal value => if value.isFinite then .ok value else .error .nonFinite
  | .reference text =>
    match (Address.ofText? text).map fun address => (address, lookup address) with
    | some (_, some (.number number)) => .ok number
    | some (address, some .error) => .error (.propagated address)
    | _ => .error (.outOfBounds text)
  | .operation kind left right => do
    let first ← left.meaning lookup
    let second ← right.meaning lookup
    if kind = .divide ∧ second.isZero then .error .divisionByZero
    else if (kind.apply first second).isFinite then .ok (kind.apply first second)
    else .error .nonFinite

def push? : List Tree → Token → Option (List Tree)
  | trees, .number value => some (.literal value :: trees)
  | trees, .reference text => some (.reference text :: trees)
  | right :: left :: below, .operator kind => some (.operation kind left right :: below)
  | _, _ => none

def ofTokens? (listed : List Token) : Option Tree := do
  match ← listed.foldlM push? [] with
  | [tree] => some tree
  | _ => none

variable {lookup : Address → Option Value} {listed rest : List Token} {token : Token}
  {trees grown : List Tree} {tree : Tree} {stack next : List Binary64} {result : Binary64}

theorem resolve_eq_meaning (text : String) :
    resolve lookup text = (reference text).meaning lookup := by
  unfold resolve meaning
  cases Address.ofText? text with
  | none => rfl
  | some address =>
    simp only [Option.map_some]
    cases lookup address with
    | none => rfl
    | some value => cases value <;> rfl

theorem operate_eq (kind : Operator) (left right : Binary64) :
    operate kind left right =
      if kind = .divide ∧ right.isZero then .error .divisionByZero
      else if (kind.apply left right).isFinite then .ok (kind.apply left right)
      else .error .nonFinite := by
  cases kind with
  | add => rfl
  | subtract => rfl
  | multiply => rfl
  | divide =>
    simp only [operate, requireFinite, true_and]
    rfl

theorem meaning_operation (kind : Operator) (left right : Tree) :
    (operation kind left right).meaning lookup =
      left.meaning lookup >>= fun first =>
        right.meaning lookup >>= fun second => operate kind first second := by
  simp only [meaning, operate_eq]

theorem foldlM_step_tokens (tree : Tree) (rest : List Token) (stack : List Binary64) :
    (tree.tokens ++ rest).foldlM (step lookup) stack =
      tree.meaning lookup >>= fun value => rest.foldlM (step lookup) (value :: stack) := by
  induction tree generalizing rest stack with
  | literal value =>
    rw [tokens, List.singleton_append, List.foldlM_cons]
    exact bind_assoc ..
  | reference text =>
    rw [tokens, List.singleton_append, List.foldlM_cons, ← resolve_eq_meaning]
    exact bind_assoc ..
  | operation kind left right ihLeft ihRight =>
    have operated (first second : Binary64) :
        (Token.operator kind :: rest).foldlM (step lookup) (second :: first :: stack) =
          operate kind first second >>= fun value =>
            rest.foldlM (step lookup) (value :: stack) := by
      rw [List.foldlM_cons]
      exact bind_assoc ..
    simp only [tokens, List.append_assoc, List.singleton_append, ihLeft, ihRight, operated,
      meaning_operation, bind_assoc]

theorem foldlM_push?_tokens (tree : Tree) (rest : List Token) (trees : List Tree) :
    (tree.tokens ++ rest).foldlM push? trees = rest.foldlM push? (tree :: trees) := by
  induction tree generalizing rest trees with
  | literal value => rfl
  | reference text => rfl
  | operation kind left right ihLeft ihRight =>
    simp only [tokens, List.append_assoc, ihLeft, ihRight]
    rfl

theorem flatMap_tokens_of_push? (pushed : push? trees token = some grown) :
    grown.reverse.flatMap tokens = trees.reverse.flatMap tokens ++ [token] := by
  unfold push? at pushed
  split at pushed
  · obtain rfl := Option.some.inj pushed
    simp [tokens]
  · obtain rfl := Option.some.inj pushed
    simp [tokens]
  · obtain rfl := Option.some.inj pushed
    simp [tokens]
  · contradiction

theorem flatMap_tokens_of_foldlM (read : listed.foldlM push? trees = some grown) :
    grown.reverse.flatMap tokens = trees.reverse.flatMap tokens ++ listed := by
  induction listed generalizing trees with
  | nil =>
    obtain rfl := Option.some.inj read
    rw [List.append_nil]
  | cons token listed ih =>
    rw [List.foldlM_cons] at read
    obtain ⟨between, pushed, read⟩ := Option.bind_eq_some_iff.mp read
    rw [ih read, flatMap_tokens_of_push? pushed, List.append_assoc, List.singleton_append]

/-- Trees and their listings correspond, one to one. -/
theorem ofTokens?_eq_some_iff : ofTokens? listed = some tree ↔ tree.tokens = listed := by
  constructor
  · intro read
    obtain ⟨trees, folded, single⟩ := Option.bind_eq_some_iff.mp read
    split at single
    · obtain rfl := Option.some.inj single
      simpa using flatMap_tokens_of_foldlM folded
    · contradiction
  · rintro rfl
    have folded := foldlM_push?_tokens tree [] []
    rw [List.append_nil] at folded
    rw [ofTokens?, folded]
    rfl

/-- The trees mean the numbers on the stack. -/
def Mean (lookup : Address → Option Value) : List Tree → List Binary64 → Prop :=
  List.Forall₂ fun tree number => tree.meaning lookup = .ok number

/-- A token that a run accepts can be read, and the trees mean what the run has. -/
theorem exists_push?_of_step (mean : Mean lookup trees stack)
    (ran : step lookup stack token = .ok next) :
    ∃ grown, push? trees token = some grown ∧ Mean lookup grown next := by
  cases token with
  | number value =>
    obtain ⟨result, passed, same⟩ := exists_of_bind_eq_ok ran
    obtain rfl := Except.ok.inj same
    exact ⟨_, rfl, .cons passed mean⟩
  | reference text =>
    obtain ⟨result, resolved, same⟩ := exists_of_bind_eq_ok ran
    obtain rfl := Except.ok.inj same
    exact ⟨_, rfl, .cons (resolve_eq_meaning text ▸ resolved) mean⟩
  | invalid text => contradiction
  | operator kind =>
    cases mean with
    | nil => contradiction
    | cons second mean =>
      cases mean with
      | nil => contradiction
      | cons first below =>
        obtain ⟨result, operated, same⟩ := exists_of_bind_eq_ok ran
        obtain rfl := Except.ok.inj same
        refine ⟨_, rfl, .cons ?_ below⟩
        rw [meaning_operation, first, second]
        exact operated

theorem exists_foldlM_push?_of_run (mean : Mean lookup trees stack)
    (ran : listed.foldlM (step lookup) stack = .ok next) :
    ∃ grown, listed.foldlM push? trees = some grown ∧ Mean lookup grown next := by
  induction listed generalizing trees stack with
  | nil =>
    obtain rfl := Except.ok.inj ran
    exact ⟨trees, rfl, mean⟩
  | cons token listed ih =>
    rw [List.foldlM_cons] at ran
    obtain ⟨between, stepped, ran⟩ := exists_of_bind_eq_ok ran
    obtain ⟨middle, pushed, mean⟩ := exists_push?_of_step mean stepped
    obtain ⟨grown, read, mean⟩ := ih mean ran
    refine ⟨grown, ?_, mean⟩
    rw [List.foldlM_cons, pushed]
    exact read

theorem evaluateTokens_tokens (tree : Tree) :
    evaluateTokens lookup tree.tokens = tree.meaning lookup := by
  rw [evaluateTokens, ← List.append_nil tree.tokens, foldlM_step_tokens, bind_assoc]
  cases tree.meaning lookup <;> rfl

theorem exists_tree_of_evaluateTokens (ran : evaluateTokens lookup listed = .ok result) :
    ∃ tree, ofTokens? listed = some tree ∧ tree.meaning lookup = .ok result := by
  obtain ⟨stack, folded, ended⟩ := exists_of_bind_eq_ok ran
  obtain ⟨trees, read, mean⟩ := exists_foldlM_push?_of_run .nil folded
  split at ended
  · obtain rfl := Except.ok.inj ended
    cases mean with
    | cons single rest =>
      cases rest
      exact ⟨_, by rw [ofTokens?, read]; rfl, single⟩
  · contradiction

end Tree

/-- Evaluation is the inverse of the postfix listing. An expression that lists a tree
comes to the meaning of the tree, also if this is a fault, and every expression that
comes to a number lists a tree of this meaning, and no other tree. -/
theorem evaluate_eq_meaning (lookup : Address → Option Value) (expression : String) :
    (∀ tree : Tree, Token.ofExpression expression = tree.tokens →
        evaluate lookup expression = tree.meaning lookup) ∧
      ∀ result, evaluate lookup expression = .ok result →
        ∃ tree : Tree, Token.ofExpression expression = tree.tokens ∧
          tree.meaning lookup = .ok result ∧
          ∀ other : Tree, Token.ofExpression expression = other.tokens → other = tree := by
  constructor
  · intro tree listed
    rw [evaluate, listed, Tree.evaluateTokens_tokens]
  · intro result evaluated
    obtain ⟨tree, read, means⟩ := Tree.exists_tree_of_evaluateTokens evaluated
    refine ⟨tree, (Tree.ofTokens?_eq_some_iff.mp read).symm, means, ?_⟩
    intro other listed
    have again := Tree.ofTokens?_eq_some_iff.mpr listed.symm
    exact Option.some.inj (again.symm.trans read)

/-- A quotient by a difference, and a sum whose left part already fails. -/
theorem evaluate_eq_meaning_nested :
    let lookup : Address → Option Value :=
      fun address => [(⟨0, 0⟩, .number (.ofDecimal false 5 0)), (⟨1, 6⟩, .error)].lookup address
    let number (digits : Nat) : Tree := .literal (.ofDecimal false digits 0)
    let quotient : Tree :=
      .operation .divide (number 10) (.operation .subtract (.reference "a1") (number 3))
    let sum : Tree :=
      .operation .add (.operation .divide (number 1) (number 0)) (.reference "B7")
    (evaluate lookup "10 a1 3 - /" = .ok (.ofDecimal false 5 0) ∧
        quotient.meaning lookup = .ok (.ofDecimal false 5 0) ∧
        ∀ other : Tree, Token.ofExpression "10 a1 3 - /" = other.tokens → other = quotient) ∧
      evaluate lookup "1 0 / B7 +" = .error .divisionByZero ∧
      sum.meaning lookup = .error .divisionByZero := by
  intro lookup number quotient sum
  have quotientListed : Token.ofExpression "10 a1 3 - /" = quotient.tokens := by decide +kernel
  have sumListed : Token.ofExpression "1 0 / B7 +" = sum.tokens := by decide +kernel
  have means : quotient.meaning lookup = .ok (.ofDecimal false 5 0) := by decide +kernel
  have fails : sum.meaning lookup = .error .divisionByZero := by decide +kernel
  have quotientLaw := evaluate_eq_meaning lookup "10 a1 3 - /"
  have sumLaw := evaluate_eq_meaning lookup "1 0 / B7 +"
  have evaluated := (quotientLaw.1 quotient quotientListed).trans means
  obtain ⟨tree, _, _, unique⟩ := quotientLaw.2 _ evaluated
  refine ⟨⟨evaluated, means, fun other listed => ?_⟩, (sumLaw.1 sum sumListed).trans fails, fails⟩
  rw [unique other listed, unique quotient quotientListed]

end Formula

end PostfixSheet
