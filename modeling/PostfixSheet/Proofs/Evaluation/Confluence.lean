import PostfixSheet.Proofs.Evaluation.Pass
import PostfixSheet.Proofs.Evaluation.Schedule

/-! Evaluation is confluent. An evaluation order lists every cell once and an
unflagged cell behind all that it depends on; a flagged cell may stand anywhere.
All such orders leave the same sheet and count the same errors, whatever values
the cells held before. The order of completion is one of them, and so is every
schedule, so it makes no difference which of them is followed. -/
namespace PostfixSheet.Sheet

variable {sheet left right : Sheet} {order first second : List Address}

theorem IsEvaluationOrder.of_pairwise (perm : order.Perm sheet.addresses)
    (apart : order.Pairwise fun earlier later => ∀ verdict ∈ sheet.verdict? earlier,
      verdict.isFlagged = false → later ∉ verdict.dependencies) :
    sheet.analyze.1.IsEvaluationOrder order where
  perm := by rwa [addresses_analyze]
  behind := by
    rintro before address after rfl cell verdict found analyzed unflagged member inSet
    have known := verdict_of_analyze found analyzed
    obtain ⟨done, isKnown⟩ := exists_verdict_of_mem_dependencies known inSet
    obtain ⟨source, inSheet⟩ := exists_cell_of_verdict isKnown
    have listed : member ∈ before ++ address :: after := by
      rw [perm.mem_iff, Table.mem_addresses, inSheet, Option.isSome_some]
    rcases List.mem_append.mp listed with earlier | later
    · exact earlier
    rcases List.mem_cons.mp later with rfl | behind
    · exact absurd inSet (not_mem_own_dependencies known)
    · have ordered := (List.pairwise_cons.mp (List.pairwise_append.mp apart).2.1).1 member behind
      exact absurd inSet (ordered verdict known unflagged)

theorem SettledOn.of_perm (settled : sheet.SettledOn first) (perm : first.Perm second) :
    sheet.SettledOn second :=
  fun address listed => settled address (perm.mem_iff.mpr listed)

/-- Two passes over the same analyses end in the same sheet with the same count. The
sheet that they end in settles the count too, since both count its errors. -/
theorem evaluate_eq_of_admissible (same : left.bare = right.bare)
    (firstPerm : first.Perm left.addresses) (secondPerm : second.Perm right.addresses)
    (firstAdmissible : left.Admissible first) (secondAdmissible : right.Admissible second) :
    left.evaluate first = right.evaluate second := by
  have bares : (left.evaluate first).1.bare = (right.evaluate second).1.bare := by
    rw [bare_evaluate, bare_evaluate, same]
  have perm : second.Perm first := secondPerm.trans (addresses_of_bare same ▸ firstPerm.symm)
  have sheets : (left.evaluate first).1 = (right.evaluate second).1 :=
    SettledOn.unique bares (firstAdmissible.of_bare (bare_evaluate left first).symm)
      firstAdmissible.settledOn_evaluate (secondAdmissible.settledOn_evaluate.of_perm perm)
  have counts : (left.evaluate first).2 = (right.evaluate second).2 := by
    rw [snd_evaluate_of_perm firstPerm, snd_evaluate_of_perm secondPerm, sheets]
  exact Prod.ext sheets counts

theorem IsEvaluationOrder.evaluate_eq (firstOrdered : sheet.analyze.1.IsEvaluationOrder first)
    (secondOrdered : sheet.analyze.1.IsEvaluationOrder second)
    (sameLeft : left.bare = sheet.analyze.1.bare) (sameRight : right.bare = sheet.analyze.1.bare) :
    left.evaluate first = right.evaluate second := by
  apply evaluate_eq_of_admissible (sameLeft.trans sameRight.symm)
  · rw [addresses_of_bare sameLeft]
    exact firstOrdered.perm
  · rw [addresses_of_bare sameRight]
    exact secondOrdered.perm
  · exact firstOrdered.admissible.of_bare sameLeft.symm
  · exact secondOrdered.admissible.of_bare sameRight.symm

/-- Whatever values the cells of an analyzed sheet hold, all evaluation orders give the
same values and the same count of errors. The order of completion and the schedule of
any order of the cells are evaluation orders. -/
theorem evaluate_confluent (sheet : Sheet) :
    (∀ (left right : Sheet) (first second : List Address),
      left.bare = sheet.analyze.1.bare → right.bare = sheet.analyze.1.bare →
      sheet.analyze.1.IsEvaluationOrder first → sheet.analyze.1.IsEvaluationOrder second →
        left.evaluate first = right.evaluate second) ∧
    sheet.analyze.1.IsEvaluationOrder sheet.analyze.2 ∧
    ∀ order : List Address, order.Perm sheet.addresses →
      sheet.analyze.1.IsEvaluationOrder (sheet.analyze.1.schedule order) ∧
        sheet.analyze.1.evaluate (sheet.analyze.1.schedule order) =
          sheet.analyze.1.evaluate sheet.analyze.2 := by
  have completion := (isDependencyOrder_completion sheet).isEvaluationOrder
  refine ⟨?_, completion, fun order perm => ?_⟩
  · intro left right first second sameLeft sameRight firstOrdered secondOrdered
    exact firstOrdered.evaluate_eq secondOrdered sameLeft sameRight
  · have scheduled := (IsDependencyOrder.of_schedule perm).isEvaluationOrder
    exact ⟨scheduled, scheduled.evaluate_eq completion rfl rfl⟩

/-- A flagged cell may stand before all that it refers to or behind it, and what two
cells held before makes no difference. -/
theorem evaluate_confluent_flagged_anywhere :
    let sheet := ofRows [["B1 1 +", "2 D1 /", "A1 oops", "3 0 /"]]
    let left := sheet.analyze.1.setValue ⟨1, 0⟩ (some .error)
    let right := sheet.analyze.1.setValue ⟨2, 0⟩ none
    let first : List Address := [⟨2, 0⟩, ⟨3, 0⟩, ⟨1, 0⟩, ⟨0, 0⟩]
    let second : List Address := [⟨3, 0⟩, ⟨1, 0⟩, ⟨0, 0⟩, ⟨2, 0⟩]
    (sheet.analyze.1.get? ⟨2, 0⟩).any Cell.isFlagged ∧
      left.bare = sheet.analyze.1.bare ∧ right.bare = sheet.analyze.1.bare ∧
      sheet.analyze.1.IsEvaluationOrder first ∧ sheet.analyze.1.IsEvaluationOrder second ∧
      left.evaluate first = right.evaluate second := by
  intro sheet left right first second
  have flagged : (sheet.analyze.1.get? ⟨2, 0⟩).any Cell.isFlagged := by decide +kernel
  have sameLeft : left.bare = sheet.analyze.1.bare := bare_setValue ..
  have sameRight : right.bare = sheet.analyze.1.bare := bare_setValue ..
  have firstOrdered : sheet.analyze.1.IsEvaluationOrder first :=
    .of_pairwise (by decide +kernel) (by decide +kernel)
  have secondOrdered : sheet.analyze.1.IsEvaluationOrder second :=
    .of_pairwise (by decide +kernel) (by decide +kernel)
  have agree := (evaluate_confluent sheet).1 left right first second
    sameLeft sameRight firstOrdered secondOrdered
  exact ⟨flagged, sameLeft, sameRight, firstOrdered, secondOrdered, agree⟩

end PostfixSheet.Sheet
