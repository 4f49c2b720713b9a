import PostfixSheet.Proofs.Analysis.Completion

/-! What the analysis records, cell by cell. The record of a cell is the outcome
of one reading of its tokens from left to right, which asks for nothing but the
order of completion and the records of other cells: a reference to a cell that
was completed later ends the reading, and a reference to one that was completed
before takes that cell in. The first fault that is found is the one that is
kept. How the walk came to a cell, and what it did in the midst of a reading,
leaves no trace. -/
namespace PostfixSheet

/-- What a reading finds: the faults in the order of the tokens, and the cells
that it takes in. -/
structure Findings where
  faults : List Fault := []
  cells : AddressSet := .empty

namespace Findings

def note (fault : Fault) (rest : Findings) : Findings :=
  { rest with faults := fault :: rest.faults }

/-- A cell with its dependency set, and its flag as a fault. -/
def take (target : Address) (done : Analysis) (rest : Findings) : Findings where
  faults := if done.isFlagged then .propagated target :: rest.faults else rest.faults
  cells := insert target done.dependencies ∪ rest.cells

def analysis (findings : Findings) : Analysis where
  dependencies := findings.cells
  fault := findings.faults.head?

end Findings

/-- One reading of tokens of a cell, from the records that the sheet holds. -/
def Sheet.findings (sheet : Sheet) (position : Address → Nat) (cell : Address) :
    List Token → Findings
  | [] => {}
  | .number _ :: tokens | .operator _ :: tokens => sheet.findings position cell tokens
  | .invalid text :: tokens => (sheet.findings position cell tokens).note (.invalidToken text)
  | .reference text :: tokens =>
    match sheet.locate? text with
    | none => (sheet.findings position cell tokens).note (.outOfBounds text)
    | some (target, found) =>
      if target = cell then (sheet.findings position cell tokens).note .selfReference
      else if position cell < position target then { faults := [.cycle target] }
      else match found.analysis with
        | some done => (sheet.findings position cell tokens).take target done
        | none => sheet.findings position cell tokens

namespace Analysis

variable {analysis done : Analysis} {fault : Fault} {target : Address} {rest : Findings}

/-- What is known so far, and then the rest of what a reading finds. -/
def extend (analysis : Analysis) (rest : Findings) : Analysis where
  dependencies := analysis.dependencies ∪ rest.cells
  fault := analysis.fault <|> rest.faults.head?

theorem extend_nothing : analysis.extend {} = analysis := by
  have same : analysis.dependencies ∪ .empty = analysis.dependencies := AddressSet.ext (by simp)
  simp [extend, same]

theorem extend_start : Analysis.extend {} rest = rest.analysis := by
  have same : AddressSet.empty ∪ rest.cells = rest.cells := AddressSet.ext (by simp)
  simp [extend, Findings.analysis, same]

theorem extend_note : (analysis.note fault).extend rest = analysis.extend (rest.note fault) := by
  cases kept : analysis.fault <;> simp [extend, note, Findings.note, kept]

/-- A fault that ends the reading. -/
theorem note_eq_extend : analysis.note fault = analysis.extend { faults := [fault] } :=
  calc analysis.note fault
    _ = (analysis.note fault).extend {} := extend_nothing.symm
    _ = analysis.extend { faults := [fault] } := extend_note

theorem extend_absorb :
    (analysis.absorb target done).extend rest = analysis.extend (rest.take target done) := by
  have same : (insert target analysis.dependencies ∪ done.dependencies) ∪ rest.cells =
      analysis.dependencies ∪ (insert target done.dependencies ∪ rest.cells) := by
    refine AddressSet.ext fun address => ?_
    simp only [AddressSet.mem_union, AddressSet.mem_insert]
    tauto
  cases flagged : done.isFlagged <;> cases kept : analysis.fault <;>
    simp [extend, absorb, note, Findings.take, kept, flagged, same]

end Analysis

namespace Sheet

variable {sheet : Sheet} {cell target : Address} {text : String} {verdict : Analysis}

theorem locate?_analyze_of_outside (outside : sheet.targetOf? (.reference text) = none) :
    sheet.analyze.1.locate? text = none := by
  have shape : (sheet.analyze.1.locate? text).map Prod.fst = (sheet.locate? text).map Prod.fst :=
    Table.map_fst_locate?_congr (fun address => by rw [get?_analyze, Option.isSome_map]) text
  exact Option.map_eq_none_iff.mp (shape.trans outside)

theorem locate?_analyze_of_inside (inside : sheet.targetOf? (.reference text) = some target)
    (known : sheet.verdict? target = some verdict) :
    ∃ found, sheet.analyze.1.locate? text = some (target, found) ∧
      found.analysis = some verdict := by
  obtain ⟨decoded, _⟩ := targetOf?_reference_eq_some_iff.mp inside
  obtain ⟨source, _, analyzed⟩ := exists_analyzed_of_verdict known
  exact ⟨_, Table.locate?_eq_some_iff.mpr ⟨decoded, analyzed⟩, rfl⟩

theorem rank_lt_of_not_earlier (inside : (sheet.get? target).isSome) (other : target ≠ cell)
    (unknown : sheet.earlier? cell target = none) : sheet.rank cell < sheet.rank target := by
  obtain ⟨verdict, known⟩ := exists_verdict_of_inside inside
  have distinct := rank_ne_of_ne inside other
  have notLower : ¬sheet.rank target < sheet.rank cell := by
    intro lower
    rw [earlier?_eq_some_iff.mpr ⟨lower, known⟩] at unknown
    contradiction
  omega

theorem reading_eq_extend (tokens : List Token) (analysis : Analysis) :
    sheet.reading (sheet.earlier? cell) cell tokens analysis =
      analysis.extend (sheet.analyze.1.findings sheet.rank cell tokens) := by
  fun_induction reading sheet (sheet.earlier? cell) cell tokens analysis with
  | case1 analysis => exact Analysis.extend_nothing.symm
  | case2 analysis value tokens ih => exact ih
  | case3 analysis kind tokens ih => exact ih
  | case4 analysis text tokens ih =>
    rw [findings, ← Analysis.extend_note]
    exact ih
  | case5 analysis text tokens outside ih =>
    simp only [findings, locate?_analyze_of_outside outside, ← Analysis.extend_note]
    exact ih
  | case6 analysis text tokens inside ih =>
    obtain ⟨verdict, known⟩ :=
      exists_verdict_of_inside (targetOf?_reference_eq_some_iff.mp inside).2
    obtain ⟨found, located, _⟩ := locate?_analyze_of_inside inside known
    simp only [findings, located, if_true, ← Analysis.extend_note]
    exact ih
  | case7 analysis text tokens target inside other unknown =>
    have present := (targetOf?_reference_eq_some_iff.mp inside).2
    obtain ⟨verdict, known⟩ := exists_verdict_of_inside present
    obtain ⟨found, located, _⟩ := locate?_analyze_of_inside inside known
    have later := rank_lt_of_not_earlier present other unknown
    simp only [findings, located, if_neg other, if_pos later]
    exact Analysis.note_eq_extend
  | case8 analysis text tokens target inside other done isEarlier ih =>
    obtain ⟨lower, known⟩ := earlier?_eq_some_iff.mp isEarlier
    obtain ⟨found, located, holds⟩ := locate?_analyze_of_inside inside known
    simp only [findings, located, if_neg other, if_neg (Nat.lt_asymm lower), holds,
      ← Analysis.extend_absorb]
    exact ih

/-- The record of a cell is what one reading finds, with the places in the order
of completion and the records of the other cells. No other cell has its place. -/
theorem get?_analyze_eq_findings (sheet : Sheet) {address : Address} {source : Cell}
    (inSheet : sheet.get? address = some source) :
    sheet.analyze.1.get? address = some { source with
      analysis := some (sheet.analyze.1.findings (sheet.analyze.2.idxOf ·) address
        (Token.ofExpression source.expression)).analysis } ∧
    ∀ other ∈ sheet.addresses, other ≠ address →
      sheet.analyze.2.idxOf other ≠ sheet.analyze.2.idxOf address := by
  constructor
  · obtain ⟨verdict, known, analyzed⟩ := exists_verdict inSheet
    rw [analyzed, verdict_eq_reading known, tokensAt_of_get? inSheet, reading_eq_extend,
      Analysis.extend_start]
    rfl
  · intro other member different
    exact rank_ne_of_ne (Table.mem_addresses.mp member) different

/-- A reading inside a cycle: it takes in a flagged cell, meets a word that means
nothing, and never comes to its last token. -/
theorem get?_analyze_eq_findings_on_cycle :
    let sheet := ofRows [["B1 2 *", "C1 oops A1 A2", "B1 A2 +"], ["7"]]
    let found := sheet.analyze.1.findings (sheet.analyze.2.idxOf ·) ⟨1, 0⟩
      (Token.ofExpression "C1 oops A1 A2")
    sheet.analyze.1.get? ⟨1, 0⟩ =
        some { expression := "C1 oops A1 A2", analysis := some found.analysis } ∧
      found.faults = [.propagated ⟨2, 0⟩, .invalidToken "oops", .cycle ⟨0, 0⟩] := by
  intro sheet found
  have inSheet : sheet.get? ⟨1, 0⟩ = some { expression := "C1 oops A1 A2" } := rfl
  have recorded := (get?_analyze_eq_findings sheet inSheet).1
  have faults : found.faults = [.propagated ⟨2, 0⟩, .invalidToken "oops", .cycle ⟨0, 0⟩] := by
    decide +kernel
  exact ⟨recorded, faults⟩

end Sheet

end PostfixSheet
