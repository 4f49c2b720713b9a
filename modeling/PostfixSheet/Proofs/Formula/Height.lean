import PostfixSheet.Proofs.Evaluation.Causes
import PostfixSheet.Proofs.Formula.Words

/-! Counting operands. The height of some tokens is how many operands are among them
less how many operators; a run that gets through them leaves that many numbers. So an
operator lacks operands exactly where the height in front of it is below two, and an
expression leaves one number exactly if its height is one. Which tokens fail for
another reason is not a matter of counting; but the first token that fails decides,
and nothing behind it does. -/
namespace PostfixSheet

namespace Token

def isOperand : Token → Bool
  | .number _ | .reference _ => true
  | _ => false

def isOperator : Token → Bool
  | .operator _ => true
  | _ => false

end Token

/-- A fault that is a matter of counting. -/
def Fault.OfCount : Fault → Prop
  | .stackUnderflow | .malformed _ => True
  | _ => False

namespace Formula

/-- Operands less operators. -/
def height (tokens : List Token) : Int :=
  tokens.countP Token.isOperand - tokens.countP Token.isOperator

/-- In front of every operator, the height is two at least. -/
def IsSupplied (tokens : List Token) : Prop :=
  ∀ before kind after, tokens = before ++ .operator kind :: after → 2 ≤ height before

/-- A run gets to the token behind the others, and fails there. -/
def StopsAt (lookup : Address → Option Value) (before : List Token) (token : Token)
    (fault : Fault) : Prop :=
  ∃ stack, before.foldlM (step lookup) [] = .ok stack ∧ step lookup stack token = .error fault

/-- No token that a run gets to fails for another reason than a lack of operands. -/
def FailsOnlyByUnderflow (lookup : Address → Option Value) (tokens : List Token) : Prop :=
  ∀ before token after fault, tokens = before ++ token :: after →
    StopsAt lookup before token fault → fault = .stackUnderflow

variable {lookup : Address → Option Value} {tokens before after : List Token} {token : Token}
  {fault : Fault} {stack next : List Binary64} {kind : Operator}

theorem height_cons (token : Token) (tokens : List Token) :
    height (token :: tokens) = height [token] + height tokens := by
  simp only [height, List.countP_cons, List.countP_nil]
  omega

theorem length_of_step (ran : step lookup stack token = .ok next) :
    (next.length : Int) = stack.length + height [token] := by
  cases token with
  | number value =>
    obtain ⟨_, _, same⟩ := exists_of_bind_eq_ok ran
    obtain rfl := Except.ok.inj same
    rfl
  | reference text =>
    obtain ⟨_, _, same⟩ := exists_of_bind_eq_ok ran
    obtain rfl := Except.ok.inj same
    rfl
  | invalid text => contradiction
  | operator kind =>
    simp only [step] at ran
    split at ran
    · obtain ⟨_, _, same⟩ := exists_of_bind_eq_ok ran
      obtain rfl := Except.ok.inj same
      simp [height, Token.isOperand, Token.isOperator]
    · contradiction

theorem length_of_foldlM (ran : tokens.foldlM (step lookup) stack = .ok next) :
    (next.length : Int) = stack.length + height tokens := by
  induction tokens generalizing stack with
  | nil =>
    obtain rfl := Except.ok.inj ran
    simp [height]
  | cons token tokens ih =>
    rw [List.foldlM_cons] at ran
    obtain ⟨between, stepped, ran⟩ := exists_of_bind_eq_ok ran
    have first := length_of_step stepped
    have rest := ih ran
    have joined := height_cons token tokens
    omega

theorem height_of_foldlM (ran : tokens.foldlM (step lookup) [] = .ok next) :
    height tokens = next.length := by
  have length := length_of_foldlM ran
  rw [List.length_nil] at length
  omega

theorem isSupplied_of_foldlM (ran : tokens.foldlM (step lookup) [] = .ok next) :
    IsSupplied tokens := by
  rintro before kind after rfl
  rw [List.foldlM_append] at ran
  obtain ⟨between, front, ran⟩ := exists_of_bind_eq_ok ran
  rw [List.foldlM_cons] at ran
  obtain ⟨_, stepped, _⟩ := exists_of_bind_eq_ok ran
  rw [height_of_foldlM front]
  simp only [step] at stepped
  split at stepped
  · simp only [List.length_cons]
    omega
  · contradiction

theorem foldlM_eq_error_iff :
    tokens.foldlM (step lookup) stack = .error fault ↔
      ∃ before token after between, tokens = before ++ token :: after ∧
        before.foldlM (step lookup) stack = .ok between ∧
          step lookup between token = .error fault := by
  constructor
  · intro failed
    induction tokens generalizing stack with
    | nil => contradiction
    | cons token tokens ih =>
      rw [List.foldlM_cons] at failed
      rcases error_of_bind failed with here | ⟨between, stepped, later⟩
      · exact ⟨[], token, tokens, stack, rfl, rfl, here⟩
      · obtain ⟨before, stop, after, last, rfl, front, failed⟩ := ih later
        refine ⟨token :: before, stop, after, last, rfl, ?_, failed⟩
        rw [List.foldlM_cons, stepped]
        exact front
  · rintro ⟨before, token, after, between, rfl, front, failed⟩
    rw [List.foldlM_append, front]
    exact congrArg (· >>= fun stack => after.foldlM (step lookup) stack) failed

/-- What stops a run stops it whatever follows. -/
theorem evaluateTokens_of_stopsAt (stops : StopsAt lookup before token fault)
    (after : List Token) : evaluateTokens lookup (before ++ token :: after) = .error fault := by
  obtain ⟨stack, front, failed⟩ := stops
  rw [evaluateTokens, foldlM_eq_error_iff.mpr ⟨before, token, after, stack, rfl, front, failed⟩]
  rfl

theorem evaluateTokens_of_many (ran : tokens.foldlM (step lookup) [] = .ok stack)
    (many : stack.length ≠ 1) :
    evaluateTokens lookup tokens = .error (.malformed stack.length) := by
  rw [evaluateTokens, ran]
  cases stack with
  | nil => rfl
  | cons first below =>
    cases below with
    | nil => contradiction
    | cons second below => rfl

theorem evaluateTokens_of_single {value : Binary64}
    (ran : tokens.foldlM (step lookup) [] = .ok [value]) :
    evaluateTokens lookup tokens = .ok value := by
  rw [evaluateTokens, ran]
  rfl

/-- How an evaluation ends, with what it comes to: it stops at a token, or it gets through
and leaves another number of numbers than one, or it leaves the result. -/
inductive Ends (lookup : Address → Option Value) : List Token → Except Fault Binary64 → Prop where
  | stops {before : List Token} {token : Token} {fault : Fault}
      (here : StopsAt lookup before token fault) (after : List Token) :
      Ends lookup (before ++ token :: after) (.error fault)
  | leaves {tokens : List Token} {stack : List Binary64}
      (ran : tokens.foldlM (step lookup) [] = .ok stack) (many : stack.length ≠ 1) :
      Ends lookup tokens (.error (.malformed stack.length))
  | result {tokens : List Token} {value : Binary64}
      (ran : tokens.foldlM (step lookup) [] = .ok [value]) :
      Ends lookup tokens (.ok value)

theorem ends_evaluateTokens (lookup : Address → Option Value) (tokens : List Token) :
    Ends lookup tokens (evaluateTokens lookup tokens) := by
  cases ran : tokens.foldlM (step lookup) [] with
  | error fault =>
    obtain ⟨before, token, after, stack, rfl, front, failed⟩ := foldlM_eq_error_iff.mp ran
    have here : StopsAt lookup before token fault := ⟨stack, front, failed⟩
    rw [evaluateTokens_of_stopsAt here after]
    exact .stops here after
  | ok stack =>
    by_cases single : stack.length = 1
    · obtain ⟨value, rfl⟩ := List.length_eq_one_iff.mp single
      rw [evaluateTokens_of_single ran]
      exact .result ran
    · rw [evaluateTokens_of_many ran single]
      exact .leaves ran single

/-- A token fails by count only as an operator that lacks operands. -/
theorem lacks_of_step (failed : step lookup stack token = .error fault)
    (counted : fault.OfCount) :
    fault = .stackUnderflow ∧ ∃ kind, token = .operator kind ∧ stack.length < 2 := by
  cases token with
  | number value =>
    rcases error_of_bind failed with literal | ⟨_, _, pushed⟩
    · obtain rfl := eq_nonFinite_of_requireFinite literal
      contradiction
    · contradiction
  | reference text =>
    rcases error_of_bind failed with resolved | ⟨_, _, pushed⟩
    · rcases fault_of_resolve resolved with rfl | ⟨_, rfl⟩ <;> contradiction
    · contradiction
  | invalid text =>
    cases failed
    contradiction
  | operator kind =>
    simp only [step] at failed
    split at failed
    · rcases error_of_bind failed with operated | ⟨_, _, pushed⟩
      · rcases fault_of_operate operated with rfl | rfl <;> contradiction
      · contradiction
    · rename_i short
      obtain rfl := Except.error.inj failed
      refine ⟨rfl, kind, rfl, ?_⟩
      cases stack with
      | nil => simp
      | cons right below =>
        cases below with
        | nil => simp
        | cons left below => exact absurd rfl (short right left below)

theorem underflow_of_stopsAt (stops : StopsAt lookup before token .stackUnderflow) :
    ∃ kind, token = .operator kind ∧ IsSupplied before ∧ height before < 2 := by
  obtain ⟨stack, front, failed⟩ := stops
  obtain ⟨_, kind, rfl, short⟩ := lacks_of_step failed trivial
  refine ⟨kind, rfl, isSupplied_of_foldlM front, ?_⟩
  rw [height_of_foldlM front]
  omega

theorem ne_malformed_of_stopsAt (stops : StopsAt lookup before token fault) (remaining : Nat) :
    fault ≠ .malformed remaining := by
  rintro rfl
  obtain ⟨stack, _, failed⟩ := stops
  obtain ⟨same, _⟩ := lacks_of_step failed trivial
  contradiction

/-- An underflow is at the first operator that lacks operands. -/
theorem exists_of_underflow (failed : evaluateTokens lookup tokens = .error .stackUnderflow) :
    ∃ before kind after, tokens = before ++ .operator kind :: after ∧
      StopsAt lookup before (.operator kind) .stackUnderflow ∧
      IsSupplied before ∧ height before < 2 := by
  have ended := ends_evaluateTokens lookup tokens
  rw [failed] at ended
  cases ended with
  | stops here after =>
    obtain ⟨kind, rfl, supplied, short⟩ := underflow_of_stopsAt here
    exact ⟨_, kind, after, rfl, here, supplied, short⟩

theorem counts_of_malformed {remaining : Nat}
    (failed : evaluateTokens lookup tokens = .error (.malformed remaining)) :
    IsSupplied tokens ∧ height tokens = remaining ∧ remaining ≠ 1 := by
  have ended := ends_evaluateTokens lookup tokens
  rw [failed] at ended
  cases ended with
  | stops here after => exact absurd rfl (ne_malformed_of_stopsAt here remaining)
  | leaves ran many => exact ⟨isSupplied_of_foldlM ran, height_of_foldlM ran, many⟩

theorem counts_of_result {result : Binary64} (succeeds : evaluateTokens lookup tokens = .ok result) :
    IsSupplied tokens ∧ height tokens = 1 := by
  have ended := ends_evaluateTokens lookup tokens
  rw [succeeds] at ended
  cases ended with
  | result ran => exact ⟨isSupplied_of_foldlM ran, height_of_foldlM ran⟩

/-- A fault other than of the count at the end is that of the token where the run stops. -/
theorem exists_stopsAt_of_error (failed : evaluateTokens lookup tokens = .error fault)
    (early : ∀ remaining, fault ≠ .malformed remaining) :
    ∃ before token after, tokens = before ++ token :: after ∧ StopsAt lookup before token fault := by
  have ended := ends_evaluateTokens lookup tokens
  rw [failed] at ended
  cases ended with
  | stops here after => exact ⟨_, _, after, rfl, here⟩
  | leaves ran many => exact absurd rfl (early _)

/-- Where nothing else fails, a run gets through if every operator has its operands. -/
theorem exists_foldlM_of_failsOnly (only : FailsOnlyByUnderflow lookup tokens)
    (supplied : IsSupplied tokens) : ∃ stack, tokens.foldlM (step lookup) [] = .ok stack := by
  cases ran : tokens.foldlM (step lookup) [] with
  | ok stack => exact ⟨stack, rfl⟩
  | error fault =>
    obtain ⟨before, token, after, stack, rfl, front, failed⟩ := foldlM_eq_error_iff.mp ran
    obtain rfl := only before token after fault rfl ⟨stack, front, failed⟩
    obtain ⟨kind, rfl, _, short⟩ := underflow_of_stopsAt ⟨stack, front, failed⟩
    have enough := supplied before kind after rfl
    omega

/-- Where nothing else fails, the operands that operators lack are all that stops a run. -/
theorem underflow_iff_of_failsOnly (only : FailsOnlyByUnderflow lookup tokens) :
    evaluateTokens lookup tokens = .error .stackUnderflow ↔ ¬IsSupplied tokens := by
  constructor
  · intro failed supplied
    obtain ⟨before, kind, after, split, _, _, short⟩ := exists_of_underflow failed
    have enough := supplied before kind after split
    omega
  · intro lacking
    have ended := ends_evaluateTokens lookup tokens
    generalize evaluateTokens lookup tokens = outcome at ended ⊢
    cases ended with
    | stops here after =>
      obtain rfl := only _ _ after _ rfl here
      rfl
    | leaves ran many => exact absurd (isSupplied_of_foldlM ran) lacking
    | result ran => exact absurd (isSupplied_of_foldlM ran) lacking

theorem result_iff_of_failsOnly (only : FailsOnlyByUnderflow lookup tokens) :
    (∃ result, evaluateTokens lookup tokens = .ok result) ↔
      IsSupplied tokens ∧ height tokens = 1 := by
  constructor
  · rintro ⟨result, succeeds⟩
    exact counts_of_result succeeds
  · rintro ⟨supplied, single⟩
    obtain ⟨stack, ran⟩ := exists_foldlM_of_failsOnly only supplied
    have count := height_of_foldlM ran
    obtain ⟨result, rfl⟩ := List.length_eq_one_iff.mp (show stack.length = 1 by omega)
    exact ⟨result, evaluateTokens_of_single ran⟩

theorem malformed_iff_of_failsOnly (only : FailsOnlyByUnderflow lookup tokens)
    (remaining : Nat) :
    evaluateTokens lookup tokens = .error (.malformed remaining) ↔
      IsSupplied tokens ∧ height tokens = remaining ∧ remaining ≠ 1 := by
  constructor
  · exact counts_of_malformed
  · rintro ⟨supplied, count, many⟩
    obtain ⟨stack, ran⟩ := exists_foldlM_of_failsOnly only supplied
    have length := height_of_foldlM ran
    obtain rfl : stack.length = remaining := by omega
    exact evaluateTokens_of_many ran many

theorem ofExpression_append {blank : Char} (separates : Text.isBlank blank = true)
    (expression text : String) :
    Token.ofExpression (expression ++ (String.singleton blank ++ text)) =
      Token.ofExpression expression ++ Token.ofExpression text := by
  have gap : String.singleton blank ≠ "" := by
    simp only [ne_eq, ← String.toList_eq_nil_iff, String.toList_singleton, List.cons_ne_self,
      not_false_eq_true]
  rw [← String.append_assoc]
  exact Token.ofExpression_append_gap gap (by simpa using separates)

/-- Which fault an expression ends with. A run underflows at the first operator with a
height below two in front of it. It leaves another number of numbers than one, or a
result, only if there is no such operator, and the height of all tokens is that number.
Any fault but that of the number left over comes from the token where the run stops,
so more text behind the expression changes nothing. Where no token fails for another
reason, the heights decide among the three. -/
theorem evaluate_by_height (lookup : Address → Option Value) (expression : String) :
    let tokens := Token.ofExpression expression
    (evaluate lookup expression = .error .stackUnderflow →
        ∃ before kind after, tokens = before ++ .operator kind :: after ∧
          StopsAt lookup before (.operator kind) .stackUnderflow ∧
          IsSupplied before ∧ height before < 2) ∧
      (∀ remaining, evaluate lookup expression = .error (.malformed remaining) →
        IsSupplied tokens ∧ height tokens = remaining ∧ remaining ≠ 1) ∧
      (∀ result, evaluate lookup expression = .ok result →
        IsSupplied tokens ∧ height tokens = 1) ∧
      (∀ fault, evaluate lookup expression = .error fault →
        (∀ remaining, fault ≠ .malformed remaining) →
        (∃ before token after, tokens = before ++ token :: after ∧
          StopsAt lookup before token fault ∧
          ∀ others, evaluateTokens lookup (before ++ token :: others) = .error fault) ∧
        ∀ blank text, Text.isBlank blank = true →
          evaluate lookup (expression ++ (String.singleton blank ++ text)) = .error fault) ∧
      (FailsOnlyByUnderflow lookup tokens →
        (evaluate lookup expression = .error .stackUnderflow ↔ ¬IsSupplied tokens) ∧
        ((∃ result, evaluate lookup expression = .ok result) ↔
          IsSupplied tokens ∧ height tokens = 1) ∧
        ∀ remaining, evaluate lookup expression = .error (.malformed remaining) ↔
          IsSupplied tokens ∧ height tokens = remaining ∧ remaining ≠ 1) := by
  intro tokens
  refine ⟨exists_of_underflow, fun _ => counts_of_malformed, fun _ => counts_of_result, ?_, ?_⟩
  · intro fault failed early
    obtain ⟨before, token, after, split, stops⟩ := exists_stopsAt_of_error failed early
    refine ⟨⟨before, token, after, split, stops, evaluateTokens_of_stopsAt stops⟩, ?_⟩
    intro blank text separates
    rw [evaluate, ofExpression_append separates, show Token.ofExpression expression = _ from split,
      List.append_assoc, List.cons_append]
    exact evaluateTokens_of_stopsAt stops _
  · intro only
    exact ⟨underflow_iff_of_failsOnly only, result_iff_of_failsOnly only,
      malformed_iff_of_failsOnly only⟩

/-- One operand for an operator, then two operands without one, then a product. -/
theorem evaluate_by_height_three_ways :
    let lookup : Address → Option Value := fun _ => none
    ((∃ before kind after, Token.ofExpression "1 + 2" = before ++ .operator kind :: after ∧
        StopsAt lookup before (.operator kind) .stackUnderflow ∧
        IsSupplied before ∧ height before < 2) ∧
      evaluate lookup ("1 + 2" ++ (String.singleton ' ' ++ "A1 x")) = .error .stackUnderflow) ∧
      (IsSupplied (Token.ofExpression "3 4") ∧ height (Token.ofExpression "3 4") = 2) ∧
      (IsSupplied (Token.ofExpression "3 4 *") ∧ height (Token.ofExpression "3 4 *") = 1) ∧
      ∃ result, evaluate lookup "3 4 *" = .ok result := by
  intro lookup
  have underflow : evaluate lookup "1 + 2" = .error .stackUnderflow := by decide +kernel
  have leftOver : evaluate lookup "3 4" = .error (.malformed 2) := by decide +kernel
  have product : evaluate lookup "3 4 *" = .ok (.ofDecimal false 12 0) := by decide +kernel
  have first := evaluate_by_height lookup "1 + 2"
  have second := evaluate_by_height lookup "3 4"
  have third := evaluate_by_height lookup "3 4 *"
  have only : FailsOnlyByUnderflow lookup (Token.ofExpression "3 4 *") := by
    intro before token after fault split stops
    have stopped := evaluateTokens_of_stopsAt stops after
    rw [← split] at stopped
    cases product.symm.trans stopped
  have counted := second.2.1 2 leftOver
  have supplied := third.2.2.1 _ product
  have unchanged := (first.2.2.2.1 _ underflow nofun).2 ' ' "A1 x" (by decide)
  exact ⟨⟨first.1 underflow, unchanged⟩, ⟨counted.1, counted.2.1⟩, supplied,
    (third.2.2.2.2 only).2.1.mpr supplied⟩

end Formula

end PostfixSheet
