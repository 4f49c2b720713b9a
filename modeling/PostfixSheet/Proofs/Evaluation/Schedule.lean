import PostfixSheet.Proofs.Analysis.Flags
import PostfixSheet.Proofs.Analysis.Closure
import PostfixSheet.Proofs.Evaluation.Settled

/-! Orders that respect the dependency sets. The walk completes the members of a
set before the cell itself, so its order of completion is one of them. To sort by
the sizes of the sets gives another one, whatever order is sorted: a set is larger
than the sets of its members, flagged or not. In such an order an unflagged cell
stands behind all that it refers to, so the order is admissible. -/
namespace PostfixSheet.Sheet

variable {sheet : Sheet} {address target member : Address} {verdict : Analysis}
  {order : List Address}

/-- Every cell is listed once, and behind all members of its dependency set. -/
structure IsDependencyOrder (sheet : Sheet) (order : List Address) : Prop where
  perm : order.Perm sheet.addresses
  behind : ∀ before address after, order = before ++ address :: after →
    ∀ cell verdict, sheet.get? address = some cell → cell.analysis = some verdict →
      ∀ member ∈ verdict.dependencies, member ∈ before

/-- Every cell is listed once, and an unflagged cell behind all members of its
dependency set. A flagged cell may stand anywhere. -/
structure IsEvaluationOrder (sheet : Sheet) (order : List Address) : Prop where
  perm : order.Perm sheet.addresses
  behind : ∀ before address after, order = before ++ address :: after →
    ∀ cell verdict, sheet.get? address = some cell → cell.analysis = some verdict →
      verdict.isFlagged = false → ∀ member ∈ verdict.dependencies, member ∈ before

theorem addresses_analyze (sheet : Sheet) : sheet.analyze.1.addresses = sheet.addresses :=
  Table.addresses_mapAddress

theorem verdict_of_analyze {cell : Cell} (found : sheet.analyze.1.get? address = some cell)
    (analyzed : cell.analysis = some verdict) : sheet.verdict? address = some verdict := by
  obtain ⟨same, known, isSame⟩ := exists_verdict_of_analyze found
  rw [known, ← isSame, analyzed]

theorem dependencyCountAt_analyze (found : sheet.verdict? address = some verdict) :
    sheet.analyze.1.dependencyCountAt address = verdict.dependencies.size := by
  obtain ⟨source, _, analyzed⟩ := exists_analyzed_of_verdict found
  simp only [dependencyCountAt, analyzed, Option.map_some, Cell.dependencyCount, Option.getD_some]

/-- A member of a dependency set has fewer dependencies. -/
theorem dependencyCountAt_lt_of_mem (found : sheet.verdict? address = some verdict)
    (inSet : member ∈ verdict.dependencies) :
    sheet.analyze.1.dependencyCountAt member < sheet.analyze.1.dependencyCountAt address := by
  obtain ⟨done, known⟩ := exists_verdict_of_mem_dependencies found inSet
  rw [dependencyCountAt_analyze found, dependencyCountAt_analyze known]
  exact AddressSet.size_lt_of_ssubset (dependencies_ssubset found inSet known)

theorem closing?_eq_none_of_unflagged (found : sheet.verdict? address = some verdict)
    (unflagged : verdict.isFlagged = false) :
    sheet.closing? (sheet.earlier? address) address (sheet.tokensAt address) = none := by
  refine closing?_eq_none_of_not_onCycle found fun onCycle => ?_
  have flagged := isFlagged_of_onCycle found onCycle
  simp [unflagged] at flagged

/-- An unflagged cell depends on all that it refers to. -/
theorem mem_dependencies_of_unflagged (found : sheet.verdict? address = some verdict)
    (unflagged : verdict.isFlagged = false) (refers : sheet.Refers address target) :
    target ∈ verdict.dependencies := by
  have lower := (unflagged_of_refers found unflagged refers).1
  have other : target ≠ address := by
    rintro rfl
    exact Nat.lt_irrefl _ lower
  obtain ⟨_, _, _, taken⟩ := mem_dependencies_of_refers found
    (closing?_eq_none_of_unflagged found unflagged) refers other
  exact taken target (.inl rfl)

theorem IsDependencyOrder.isEvaluationOrder (ordered : sheet.IsDependencyOrder order) :
    sheet.IsEvaluationOrder order where
  perm := ordered.perm
  behind before address after split cell verdict found analyzed _ :=
    ordered.behind before address after split cell verdict found analyzed

theorem IsEvaluationOrder.admissible (ordered : sheet.analyze.1.IsEvaluationOrder order) :
    sheet.analyze.1.Admissible order where
  once := ordered.perm.nodup_iff.mpr (Table.nodup_addresses _)
  covers address inside := ordered.perm.mem_iff.mpr (Table.mem_addresses.mpr inside)
  inputs before address after split cell found unflagged target refers := by
    replace refers : sheet.Refers address target := refers.of_expressions (expression_analyze sheet)
    obtain ⟨verdict, known, analysis⟩ := exists_verdict_of_analyze found
    rw [Cell.isFlagged_of_analysis analysis] at unflagged
    exact ordered.behind before address after split cell verdict found analysis unflagged target
      (mem_dependencies_of_unflagged known unflagged refers)

theorem IsDependencyOrder.admissible (ordered : sheet.analyze.1.IsDependencyOrder order) :
    sheet.analyze.1.Admissible order :=
  ordered.isEvaluationOrder.admissible

theorem mem_before_of_rank_lt {before after : List Address}
    (split : sheet.analyze.2 = before ++ address :: after)
    (lower : sheet.rank member < sheet.rank address) : member ∈ before := by
  have once : (address :: (before ++ after)).Nodup :=
    List.perm_middle.nodup_iff.mp (split ▸ nodup_completion sheet)
  have fresh : address ∉ before := fun again =>
    (List.nodup_cons.mp once).1 (List.mem_append_left after again)
  by_contra absent
  rw [rank_eq_idxOf, rank_eq_idxOf, split, List.idxOf_append_of_notMem absent,
    List.idxOf_append_of_notMem fresh, List.idxOf_cons_self] at lower
  omega

theorem isDependencyOrder_completion (sheet : Sheet) :
    sheet.analyze.1.IsDependencyOrder sheet.analyze.2 where
  perm := by
    rw [addresses_analyze]
    exact perm_completion sheet
  behind before address after split cell verdict found analyzed member inSet := by
    have known := verdict_of_analyze found analyzed
    exact mem_before_of_rank_lt split (leads_of_mem_dependencies known inSet).2

theorem pairwise_schedule (sheet : Sheet) (order : List Address) :
    (sheet.schedule order).Pairwise fun left right =>
      sheet.dependencyCountAt left ≤ sheet.dependencyCountAt right := by
  have sorted : (sheet.schedule order).Pairwise fun left right =>
      decide (sheet.dependencyCountAt left ≤ sheet.dependencyCountAt right) = true := by
    refine List.pairwise_mergeSort ?_ ?_ order
    · simpa using fun _ _ _ => Nat.le_trans
    · simpa using fun _ _ => Nat.le_total _ _
  simpa only [decide_eq_true_eq] using sorted

/-- A listed cell with fewer dependencies stands before. -/
theorem mem_before_of_schedule {before after : List Address}
    (split : sheet.schedule order = before ++ address :: after) (member : target ∈ order)
    (fewer : sheet.dependencyCountAt target < sheet.dependencyCountAt address) :
    target ∈ before := by
  have sorted := split ▸ pairwise_schedule sheet order
  have listed : target ∈ before ++ address :: after := split ▸ List.mem_mergeSort.mpr member
  rcases List.mem_append.mp listed with earlier | later
  · exact earlier
  rcases List.mem_cons.mp later with rfl | behind
  · exact absurd fewer (Nat.lt_irrefl _)
  · have more := (List.pairwise_cons.mp (List.pairwise_append.mp sorted).2.1).1 target behind
    exact absurd fewer (Nat.not_lt.mpr more)

theorem IsDependencyOrder.of_schedule (perm : order.Perm sheet.addresses) :
    sheet.analyze.1.IsDependencyOrder (sheet.analyze.1.schedule order) where
  perm := by
    rw [addresses_analyze]
    exact (List.mergeSort_perm order _).trans perm
  behind before address after split cell verdict found analyzed member inSet := by
    have known := verdict_of_analyze found analyzed
    obtain ⟨done, isKnown⟩ := exists_verdict_of_mem_dependencies known inSet
    obtain ⟨source, inSheet⟩ := exists_cell_of_verdict isKnown
    have listed : member ∈ order := by
      rw [perm.mem_iff, Table.mem_addresses, inSheet, Option.isSome_some]
    exact mem_before_of_schedule split listed (dependencyCountAt_lt_of_mem known inSet)

theorem admissible_schedule (sheet : Sheet) :
    sheet.analyze.1.Admissible (sheet.analyze.1.schedule sheet.analyze.2) :=
  (IsDependencyOrder.of_schedule (perm_completion sheet)).admissible

/-- The order of completion is a dependency order, and so is the schedule of any
order of the cells. An unflagged cell is evaluated behind all that it refers to. -/
theorem isDependencyOrder_schedule (sheet : Sheet) :
    sheet.analyze.1.IsDependencyOrder sheet.analyze.2 ∧
      ∀ order : List Address, order.Perm sheet.addresses →
        sheet.analyze.1.IsDependencyOrder (sheet.analyze.1.schedule order) ∧
          sheet.analyze.1.Admissible (sheet.analyze.1.schedule order) := by
  constructor
  · exact isDependencyOrder_completion sheet
  · intro order perm
    have ordered := IsDependencyOrder.of_schedule perm
    exact ⟨ordered, ordered.admissible⟩

/-- Row by row, this sheet is listed the wrong way round, and it has a cycle. -/
theorem isDependencyOrder_schedule_row_by_row :
    let sheet := ofRows [["B1 2 *", "C1 A1 +", "D1 4 +", "7"]]
    (sheet.analyze.1.get? ⟨1, 0⟩).any Cell.isFlagged ∧ sheet.addresses.Perm sheet.addresses ∧
      sheet.analyze.1.IsDependencyOrder (sheet.analyze.1.schedule sheet.addresses) ∧
      sheet.analyze.1.Admissible (sheet.analyze.1.schedule sheet.addresses) := by
  intro sheet
  have flagged : (sheet.analyze.1.get? ⟨1, 0⟩).any Cell.isFlagged := by decide +kernel
  have perm : sheet.addresses.Perm sheet.addresses := .refl _
  have scheduled := (isDependencyOrder_schedule sheet).2 sheet.addresses perm
  exact ⟨flagged, perm, scheduled⟩

end PostfixSheet.Sheet
