import PostfixSheet.Proofs.Walk.Run

/-! The analysis of a sheet, cell by cell. Every cell has a verdict and a rank,
which is its place in the order of completion. The verdict is what one reading
of the cell gives when the cells of lower rank are known. A cell that refers to
a cell of higher rank lies on a cycle, so away from cycles the ranks descend
along the references. -/
namespace PostfixSheet.Sheet
open Relation

variable {sheet : Sheet} {address target : Address} {verdict : Analysis}

/-- What the analysis finds out about a cell. -/
def verdict? (sheet : Sheet) (address : Address) : Option Analysis :=
  (Traversal.ofSheet sheet).analysis? address

/-- The place of a cell in the order of completion. -/
def rank (sheet : Sheet) (address : Address) : Nat := (Traversal.ofSheet sheet).position address

/-- The verdicts on the cells that were completed before a cell. -/
def earlier? (sheet : Sheet) (cell address : Address) : Option Analysis :=
  if sheet.rank address < sheet.rank cell then sheet.verdict? address else none

theorem get?_analyze (sheet : Sheet) (address : Address) :
    sheet.analyze.1.get? address =
      (sheet.get? address).map fun cell => { cell with analysis := sheet.verdict? address } :=
  Table.get?_mapAddress

theorem rank_eq_idxOf (sheet : Sheet) (address : Address) :
    sheet.rank address = sheet.analyze.2.idxOf address := rfl

theorem isSome_verdict? (sheet : Sheet) (address : Address) :
    (sheet.verdict? address).isSome = (sheet.get? address).isSome :=
  Traversal.isSome_analysis?_ofSheet sheet address

theorem nodup_completion (sheet : Sheet) : sheet.analyze.2.Nodup :=
  (Traversal.resting_ofSheet sheet).invariant.once

theorem mem_completion_iff : address ∈ sheet.analyze.2 ↔ (sheet.get? address).isSome := by
  rw [← isSome_verdict?]
  exact ((Traversal.resting_ofSheet sheet).invariant.finished address).symm

/-- Every cell is completed once. -/
theorem perm_completion (sheet : Sheet) : sheet.analyze.2.Perm sheet.addresses := by
  refine (List.perm_ext_iff_of_nodup (nodup_completion sheet) sheet.nodup_addresses).mpr ?_
  intro address
  rw [mem_completion_iff, Table.mem_addresses]

/-- No two cells of a sheet have the same rank. -/
theorem rank_ne_of_ne (inSheet : (sheet.get? target).isSome) (other : target ≠ address) :
    sheet.rank target ≠ sheet.rank address := by
  intro same
  exact other ((List.idxOf_inj (mem_completion_iff.mpr inSheet)).mp same)

theorem expression_analyze (sheet : Sheet) (address : Address) :
    (sheet.get? address).map Cell.expression =
      (sheet.analyze.1.get? address).map Cell.expression := by
  simp only [get?_analyze, Option.map_map, Function.comp_def]

/-- Every cell of a sheet gets a verdict, and analysis changes nothing else of it. -/
theorem exists_verdict {source : Cell} (inSheet : sheet.get? address = some source) :
    ∃ verdict, sheet.verdict? address = some verdict ∧
      sheet.analyze.1.get? address = some { source with analysis := some verdict } := by
  have analyzed := isSome_verdict? sheet address
  rw [inSheet, Option.isSome_some, Option.isSome_iff_exists] at analyzed
  obtain ⟨verdict, known⟩ := analyzed
  exact ⟨verdict, known, by rw [get?_analyze, inSheet, Option.map_some, known]⟩

theorem exists_verdict_of_inside (inside : (sheet.get? address).isSome) :
    ∃ verdict, sheet.verdict? address = some verdict := by
  rwa [← Option.isSome_iff_exists, isSome_verdict?]

theorem exists_cell_of_verdict (known : sheet.verdict? address = some verdict) :
    ∃ source, sheet.get? address = some source := by
  have inside := isSome_verdict? sheet address
  rwa [known, Option.isSome_some, eq_comm, Option.isSome_iff_exists] at inside

theorem exists_analyzed_of_verdict (known : sheet.verdict? address = some verdict) :
    ∃ source, sheet.get? address = some source ∧
      sheet.analyze.1.get? address = some { source with analysis := some verdict } := by
  obtain ⟨source, inSheet⟩ := exists_cell_of_verdict known
  exact ⟨source, inSheet, by rw [get?_analyze, inSheet, Option.map_some, known]⟩

theorem exists_verdict_of_analyze {cell : Cell}
    (found : sheet.analyze.1.get? address = some cell) :
    ∃ verdict, sheet.verdict? address = some verdict ∧ cell.analysis = some verdict := by
  rw [get?_analyze] at found
  obtain ⟨source, inSheet, rfl⟩ := Option.map_eq_some_iff.mp found
  obtain ⟨verdict, known, _⟩ := exists_verdict inSheet
  exact ⟨verdict, known, known⟩

theorem earlier?_eq_some_iff {cell : Address} :
    sheet.earlier? cell address = some verdict ↔
      sheet.rank address < sheet.rank cell ∧ sheet.verdict? address = some verdict :=
  Option.ite_none_right_eq_some

theorem inside_of_refers (refers : sheet.Refers address target) :
    (sheet.get? target).isSome := by
  obtain ⟨token, _, named⟩ := refers_iff.mp refers
  cases token with
  | reference text => exact (targetOf?_reference_eq_some_iff.mp named).2
  | _ => simp [targetOf?] at named

theorem exists_verdict_of_refers (refers : sheet.Refers address target) :
    ∃ verdict, sheet.verdict? target = some verdict :=
  exists_verdict_of_inside (inside_of_refers refers)

theorem exists_verdict_of_reaches (found : sheet.verdict? address = some verdict)
    (reaches : ReflTransGen sheet.Refers address target) :
    ∃ done, sheet.verdict? target = some done := by
  rcases reaches.cases_tail with rfl | ⟨_, _, refers⟩
  · exact ⟨verdict, found⟩
  · exact exists_verdict_of_refers refers

/-- A verdict is one reading of the cell with the cells of lower rank known. -/
theorem verdict_eq_reading (found : sheet.verdict? address = some verdict) :
    verdict = sheet.reading (sheet.earlier? address) address (sheet.tokensAt address) {} :=
  ((Traversal.resting_ofSheet sheet).invariant.results address verdict found).1

/-- The reference that ends a reading leads back to the cell. -/
theorem leads_of_closing (found : sheet.verdict? address = some verdict)
    (closed : sheet.closing? (sheet.earlier? address) address (sheet.tokensAt address) =
      some target) : TransGen sheet.Refers target address :=
  ((Traversal.resting_ofSheet sheet).invariant.results address verdict found).2 target closed

theorem refers_of_closing {known : Address → Option Analysis}
    (closed : sheet.closing? known address (sheet.tokensAt address) = some target) :
    sheet.Refers address target ∧ target ≠ address ∧ known target = none := by
  have chosen := List.find?_some closed
  simp only [decide_eq_true_eq, Option.isNone_iff_eq_none] at chosen
  exact ⟨List.mem_of_find?_eq_some closed, chosen⟩

/-- A cell whose reading was ended lies on a cycle. -/
theorem onCycle_of_closing (found : sheet.verdict? address = some verdict)
    (closed : sheet.closing? (sheet.earlier? address) address (sheet.tokensAt address) =
      some target) : sheet.OnCycle address := by
  obtain ⟨refers, other, _⟩ := refers_of_closing closed
  exact ⟨target, other, .single refers, leads_of_closing found closed⟩

theorem closing?_eq_none_of_not_onCycle (found : sheet.verdict? address = some verdict)
    (clear : ¬sheet.OnCycle address) :
    sheet.closing? (sheet.earlier? address) address (sheet.tokensAt address) = none := by
  by_contra closed
  obtain ⟨back, closed⟩ := Option.ne_none_iff_exists'.mp closed
  exact clear (onCycle_of_closing found closed)

end PostfixSheet.Sheet
