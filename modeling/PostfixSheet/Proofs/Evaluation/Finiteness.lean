import PostfixSheet.Proofs.Attempts
import PostfixSheet.Proofs.Evaluation.Recalculation
import PostfixSheet.Proofs.Number.Tenths

/-! Stored numbers are finite. A literal or a result that is not finite ends the
evaluation, so only a reference could bring such a number onto the stack, and what a
reference reads was stored before. The numbers that a sheet held when it was
recalculated are never read: an unflagged cell refers to cells of lower rank, which
have been computed anew. -/
namespace PostfixSheet

namespace Formula

variable {lookup : Address → Option Value} {stack next : List Binary64} {token : Token}
  {tokens : List Token} {left right result : Binary64}

theorem requireFinite_eq_ok_iff :
    requireFinite left = .ok result ↔ left.isFinite = true ∧ left = result := by
  unfold requireFinite
  split
  · rename_i finite
    rw [Except.ok.injEq, and_iff_right finite]
  · rename_i infinite
    constructor
    · intro same
      contradiction
    · rintro ⟨finite, _⟩
      exact absurd finite infinite

theorem evaluate_of_literal {expression : String}
    (tokens : Token.ofExpression expression = [.number left]) (finite : left.isFinite = true) :
    evaluate lookup expression = .ok left := by
  have passed := requireFinite_eq_ok_iff.mpr ⟨finite, rfl⟩
  simp only [evaluate, tokens, evaluateTokens, List.foldlM_cons, step, passed]
  rfl

theorem isFinite_of_requireFinite (ran : requireFinite left = .ok result) :
    result.isFinite = true := by
  obtain ⟨finite, rfl⟩ := requireFinite_eq_ok_iff.mp ran
  exact finite

theorem isFinite_of_operate {kind : Operator} (ran : operate kind left right = .ok result) :
    result.isFinite = true := by
  cases kind with
  | add => exact isFinite_of_requireFinite ran
  | subtract => exact isFinite_of_requireFinite ran
  | multiply => exact isFinite_of_requireFinite ran
  | divide =>
    simp only [operate] at ran
    split at ran
    · contradiction
    · exact isFinite_of_requireFinite ran

/-- The references among the tokens look up no number that is not finite. -/
def LooksUpFinite (lookup : Address → Option Value) (tokens : List Token) : Prop :=
  ∀ text, .reference text ∈ tokens → ∀ address, Address.ofText? text = some address →
    ∀ number, lookup address = some (.number number) → number.isFinite = true

theorem isFinite_of_resolve {text : String} (member : .reference text ∈ tokens)
    (reads : LooksUpFinite lookup tokens) (ran : resolve lookup text = .ok result) :
    result.isFinite = true := by
  unfold resolve at ran
  split at ran
  · contradiction
  · rename_i address decoded
    split at ran
    · contradiction
    · contradiction
    · rename_i number looked
      obtain rfl := Except.ok.inj ran
      exact reads text member address decoded number looked

theorem isFinite_of_step (reads : LooksUpFinite lookup tokens) (member : token ∈ tokens)
    (finite : ∀ number ∈ stack, number.isFinite = true)
    (ran : step lookup stack token = .ok next) : ∀ number ∈ next, number.isFinite = true := by
  have push : ∀ {below : List Binary64} {top : Binary64}, top.isFinite = true →
      (∀ number ∈ below, number.isFinite = true) →
      ∀ number ∈ top :: below, number.isFinite = true :=
    fun top below => List.forall_mem_cons.mpr ⟨top, below⟩
  cases token with
  | number value =>
    obtain ⟨result, passed, same⟩ := exists_of_bind_eq_ok ran
    obtain rfl := Except.ok.inj same
    exact push (isFinite_of_requireFinite passed) finite
  | reference text =>
    obtain ⟨result, resolved, same⟩ := exists_of_bind_eq_ok ran
    obtain rfl := Except.ok.inj same
    exact push (isFinite_of_resolve member reads resolved) finite
  | invalid text => contradiction
  | operator kind =>
    simp only [step] at ran
    split at ran
    · obtain ⟨result, operated, same⟩ := exists_of_bind_eq_ok ran
      obtain rfl := Except.ok.inj same
      have below := List.forall_mem_cons.mp (List.forall_mem_cons.mp finite).2
      exact push (isFinite_of_operate operated) below.2
    · contradiction

theorem isFinite_of_foldlM (reads : LooksUpFinite lookup tokens)
    (finite : ∀ number ∈ stack, number.isFinite = true)
    (ran : tokens.foldlM (step lookup) stack = .ok next) :
    ∀ number ∈ next, number.isFinite = true := by
  induction tokens generalizing stack with
  | nil =>
    obtain rfl := Except.ok.inj ran
    exact finite
  | cons token rest ih =>
    rw [List.foldlM_cons] at ran
    obtain ⟨between, stepped, ran⟩ := exists_of_bind_eq_ok ran
    refine ih ?_ (isFinite_of_step reads List.mem_cons_self finite stepped) ran
    intro text member
    exact reads text (List.mem_cons_of_mem _ member)

theorem isFinite_of_evaluateTokens (reads : LooksUpFinite lookup tokens)
    (ran : evaluateTokens lookup tokens = .ok result) : result.isFinite = true := by
  obtain ⟨stack, folded, ended⟩ := exists_of_bind_eq_ok ran
  have finite := isFinite_of_foldlM reads (fun _ member => absurd member List.not_mem_nil) folded
  split at ended
  · obtain rfl := Except.ok.inj ended
    exact finite _ List.mem_cons_self
  · contradiction

end Formula

namespace Sheet

variable {sheet : Sheet} {address : Address} {number : Binary64}

/-- A number in a recalculated sheet is the rounded result of the cell's expression. -/
theorem exists_result_of_number
    (stored : sheet.recalculate.1.valueAt? address = some (.number number)) :
    ∃ source verdict result, sheet.get? address = some source ∧
      sheet.verdict? address = some verdict ∧ verdict.isFlagged = false ∧
      Formula.evaluate sheet.recalculate.1.valueAt? source.expression = .ok result ∧
      number = result.roundToTenth := by
  obtain ⟨cell, inRecalculated, _⟩ := Option.bind_eq_some_iff.mp stored
  have inside := inside_of_recalculate inRecalculated
  obtain ⟨source, inSheet⟩ := Option.isSome_iff_exists.mp inside
  obtain ⟨verdict, known, found⟩ := get?_recalculate inSheet
  simp only [valueAt?, found, Option.bind_some, Option.some.injEq, compute] at stored
  split at stored
  · contradiction
  · rename_i unflagged
    split at stored
    · rename_i result evaluated
      obtain rfl := Value.number.inj stored
      exact ⟨source, verdict, result, inSheet, known, by simpa [Cell.isFlagged] using unflagged,
        evaluated, rfl⟩
    · contradiction

/-- Whatever a sheet held before, the numbers that a recalculation stores are finite.
The induction is on the rank, which falls along the references of an unflagged cell. -/
theorem isFinite_of_valueAt?_recalculate
    (stored : sheet.recalculate.1.valueAt? address = some (.number number)) :
    number.isFinite = true := by
  induction bound : sheet.rank address using Nat.strongRecOn generalizing address number with
  | _ rank ih =>
    subst bound
    obtain ⟨source, verdict, result, inSheet, known, unflagged, evaluated, rfl⟩ :=
      exists_result_of_number stored
    rw [Binary64.isFinite_roundToTenth]
    refine Formula.isFinite_of_evaluateTokens ?_ evaluated
    intro text member looked decoded read stored
    rcases targetOf?_of_decoded decoded with unnamed | named
    · rw [valueAt?_recalculate_of_unnamed decoded unnamed] at stored
      contradiction
    · rw [← tokensAt_of_get? inSheet] at member
      have refers : sheet.Refers address looked := refers_iff.mpr ⟨_, member, named⟩
      exact ih _ (unflagged_of_refers known unflagged refers).1 stored rfl

/-- Stored numbers are rounded already. -/
theorem roundToTenth_of_valueAt?_recalculate
    (stored : sheet.recalculate.1.valueAt? address = some (.number number)) :
    number.roundToTenth = number := by
  obtain ⟨_, _, result, _, _, _, _, rfl⟩ := exists_result_of_number stored
  exact Binary64.roundToTenth_roundToTenth result

end Sheet

end PostfixSheet
