import PostfixSheet.Formula.Evaluation

/-! What an expression takes from the other cells. Only the cells that its
references name are looked up, so two tables of values that agree there give the
same result. A token that fails on every stack makes the expression fail. -/
namespace PostfixSheet.Formula

variable {lookup other : Address → Option Value} {tokens : List Token}

theorem foldlM_step_congr
    (same : ∀ text address, .reference text ∈ tokens → Address.ofText? text = some address →
      lookup address = other address) (stack : List Binary64) :
    tokens.foldlM (step lookup) stack = tokens.foldlM (step other) stack := by
  induction tokens generalizing stack with
  | nil => rfl
  | cons token tokens ih =>
    have rest := ih fun text address member => same text address (List.mem_cons_of_mem _ member)
    have first : step lookup stack token = step other stack token := by
      cases token with
      | reference text =>
        have resolved : resolve lookup text = resolve other text := by
          unfold resolve
          split
          · rfl
          · rename_i address decoded
            rw [same text address List.mem_cons_self decoded]
        simp only [step, resolved]
      | _ => rfl
    simp only [List.foldlM_cons, first, rest]

theorem evaluateTokens_congr
    (same : ∀ text address, .reference text ∈ tokens → Address.ofText? text = some address →
      lookup address = other address) :
    evaluateTokens lookup tokens = evaluateTokens other tokens := by
  simp only [evaluateTokens, foldlM_step_congr same]

/-- A token that fails whatever is on the stack. -/
def Fails (lookup : Address → Option Value) (token : Token) : Prop :=
  ∀ stack, ∃ fault, step lookup stack token = .error fault

theorem foldlM_step_of_fails {token : Token} (fails : Fails lookup token)
    (member : token ∈ tokens) (stack : List Binary64) :
    ∃ fault, tokens.foldlM (step lookup) stack = .error fault := by
  induction tokens generalizing stack with
  | nil => contradiction
  | cons head rest ih =>
    rw [List.foldlM_cons]
    cases first : step lookup stack head with
    | error fault => exact ⟨fault, rfl⟩
    | ok next =>
      rcases List.mem_cons.mp member with rfl | later
      · obtain ⟨fault, failed⟩ := fails stack
        rw [first] at failed
        contradiction
      · exact ih later next

theorem evaluateTokens_of_fails {token : Token} (fails : Fails lookup token)
    (member : token ∈ tokens) : ∃ fault, evaluateTokens lookup tokens = .error fault := by
  obtain ⟨fault, failed⟩ := foldlM_step_of_fails fails member []
  exact ⟨fault, by rw [evaluateTokens, failed]; rfl⟩

theorem fails_invalid (text : String) : Fails lookup (.invalid text) :=
  fun _ => ⟨.invalidToken text, rfl⟩

/-- A reference fails unless the cell that it names holds a number. -/
theorem fails_reference {text : String}
    (noNumber : ∀ address, Address.ofText? text = some address →
      lookup address = none ∨ lookup address = some .error) : Fails lookup (.reference text) := by
  intro stack
  have failed : ∃ fault, resolve lookup text = .error fault := by
    unfold resolve
    split
    · exact ⟨_, rfl⟩
    · rename_i address decoded
      rcases noNumber address decoded with absent | error
      · exact ⟨.outOfBounds text, by rw [absent]⟩
      · exact ⟨.propagated address, by rw [error]⟩
  obtain ⟨fault, failed⟩ := failed
  exact ⟨fault, by rw [step, failed]; rfl⟩

end PostfixSheet.Formula
