import PostfixSheet.Proofs.Analysis.Dependencies
import PostfixSheet.Proofs.Analysis.Flags
import Mathlib.Data.List.Perm.Subperm

/-! Dependency sets are closed: with a member, a set holds the whole set of that
member. This is so even where a cycle ended a reading, since a cell that a
reading takes in brings its set along. No cell is in its own set, so every member
has a smaller set, and a member of an unflagged cell's set is unflagged. -/
namespace PostfixSheet

namespace AddressSet

instance : HasSubset AddressSet := ⟨fun left right => ∀ address ∈ left, address ∈ right⟩

instance : HasSSubset AddressSet := ⟨fun left right => left ⊆ right ∧ ¬right ⊆ left⟩

variable {left right : AddressSet} {address : Address}

theorem ssubset_of_fresh (subset : left ⊆ right) (fresh : address ∉ left)
    (member : address ∈ right) : left ⊂ right :=
  ⟨subset, fun back => fresh (back address member)⟩

theorem exists_fresh_of_ssubset (strict : left ⊂ right) :
    ∃ address, address ∉ left ∧ address ∈ right := by
  by_contra none
  refine strict.2 fun address member => ?_
  by_contra fresh
  exact none ⟨address, fresh, member⟩

theorem size_lt_of_ssubset (strict : left ⊂ right) : left.size < right.size := by
  obtain ⟨address, fresh, member⟩ := exists_fresh_of_ssubset strict
  have distinct : (address :: left.toList).Nodup :=
    List.nodup_cons.mpr ⟨fresh, nodup_of_sorted left.sorted⟩
  have inside : address :: left.toList ⊆ right.toList := by
    intro other listed
    rcases List.mem_cons.mp listed with rfl | inLeft
    · exact member
    · exact strict.1 other inLeft
  exact (List.subperm_of_subset distinct inside).length_le

end AddressSet

namespace Sheet

variable {sheet : Sheet} {known : Address → Option Analysis} {cell address member : Address}
  {verdict done : Analysis}

theorem dependencies_subset_reading {tokens : List Token} {analysis : Analysis}
    (inSet : address ∈ analysis.dependencies) :
    address ∈ (sheet.reading known cell tokens analysis).dependencies := by
  fun_induction reading sheet known cell tokens analysis with
  | case1 => exact inSet
  | case2 _ _ _ ih => exact ih inSet
  | case3 _ _ _ ih => exact ih inSet
  | case4 _ _ _ ih => exact ih inSet
  | case5 _ _ _ _ ih => exact ih inSet
  | case6 _ _ _ _ ih => exact ih inSet
  | case7 => exact inSet
  | case8 _ _ _ _ _ _ _ _ ih => exact ih (Analysis.mem_dependencies_absorb.mpr (.inr (.inl inSet)))

/-- What a reading takes in comes with a known cell, whose whole set it takes in too. -/
theorem exists_taken_of_reading {tokens : List Token} {analysis : Analysis}
    (inSet : address ∈ (sheet.reading known cell tokens analysis).dependencies) :
    address ∈ analysis.dependencies ∨ ∃ target found, known target = some found ∧
      (address = target ∨ address ∈ found.dependencies) ∧
      ∀ other ∈ found.dependencies,
        other ∈ (sheet.reading known cell tokens analysis).dependencies := by
  fun_induction reading sheet known cell tokens analysis with
  | case1 => exact .inl inSet
  | case2 _ _ _ ih => exact ih inSet
  | case3 _ _ _ ih => exact ih inSet
  | case4 _ _ _ ih => exact ih inSet
  | case5 _ _ _ _ ih => exact ih inSet
  | case6 _ _ _ _ ih => exact ih inSet
  | case7 => exact .inl inSet
  | case8 analysis text tokens target _ _ found isKnown ih =>
    rcases ih inSet with before | later
    · rw [Analysis.mem_dependencies_absorb, or_left_comm] at before
      refine before.imp_right fun taken => ⟨target, found, isKnown, taken, fun other inFound => ?_⟩
      apply dependencies_subset_reading
      exact Analysis.mem_dependencies_absorb.mpr (.inr (.inr inFound))
    · exact .inr later

theorem dependencies_closed (found : sheet.verdict? address = some verdict)
    (inSet : member ∈ verdict.dependencies) (known : sheet.verdict? member = some done) :
    done.dependencies ⊆ verdict.dependencies := by
  induction bound : sheet.rank address using Nat.strongRecOn generalizing address verdict with
  | _ rank ih =>
    subst bound
    rw [verdict_eq_reading found] at inSet ⊢
    rcases exists_taken_of_reading inSet with inEmpty | ⟨target, taken, isEarlier, origin, whole⟩
    · exact absurd inEmpty (AddressSet.not_mem_empty member)
    · obtain ⟨lower, isKnown⟩ := earlier?_eq_some_iff.mp isEarlier
      intro other inDone
      apply whole
      rcases origin with rfl | deeper
      · obtain rfl : done = taken := Option.some.inj (known.symm.trans isKnown)
        exact inDone
      · exact ih _ lower isKnown deeper rfl other inDone

theorem exists_verdict_of_mem_dependencies (found : sheet.verdict? address = some verdict)
    (inSet : member ∈ verdict.dependencies) : ∃ done, sheet.verdict? member = some done :=
  exists_verdict_of_reaches found (leads_of_mem_dependencies found inSet).1.to_reflTransGen

/-- A member of a dependency set is not in its own set, which is therefore smaller. -/
theorem dependencies_ssubset (found : sheet.verdict? address = some verdict)
    (inSet : member ∈ verdict.dependencies) (known : sheet.verdict? member = some done) :
    done.dependencies ⊂ verdict.dependencies :=
  AddressSet.ssubset_of_fresh (dependencies_closed found inSet known)
    (not_mem_own_dependencies known) inSet

/-- A cell is in no set of a cell that it depends on, since ranks descend. -/
theorem not_mem_dependencies_of_mem (found : sheet.verdict? address = some verdict)
    (inSet : member ∈ verdict.dependencies) (known : sheet.verdict? member = some done) :
    address ∉ done.dependencies := by
  intro back
  have down := (leads_of_mem_dependencies found inSet).2
  have up := (leads_of_mem_dependencies known back).2
  exact Nat.lt_asymm down up

theorem unflagged_of_mem_dependencies (found : sheet.verdict? address = some verdict)
    (unflagged : verdict.isFlagged = false) (inSet : member ∈ verdict.dependencies)
    (known : sheet.verdict? member = some done) : done.isFlagged = false := by
  have reaches := (leads_of_mem_dependencies found inSet).1.to_reflTransGen
  obtain ⟨same, isKnown, clean⟩ := unflagged_of_reaches found unflagged reaches
  obtain rfl : done = same := Option.some.inj (known.symm.trans isKnown)
  exact clean

/-- No cell is in its own dependency set. A member of the set is a cell of the sheet
whose own set is inside this one, smaller, and without the cell. A fault anywhere in
the set is a fault of the cell. -/
theorem dependencies_nested (sheet : Sheet) {address : Address} {source : Cell}
    (inSheet : sheet.get? address = some source) :
    ∃ verdict : Analysis,
      sheet.analyze.1.get? address = some { source with analysis := some verdict } ∧
      address ∉ verdict.dependencies ∧
      ∀ member ∈ verdict.dependencies, ∃ (cell : Cell) (done : Analysis),
        sheet.get? member = some cell ∧
        sheet.analyze.1.get? member = some { cell with analysis := some done } ∧
        address ∉ done.dependencies ∧ done.dependencies ⊂ verdict.dependencies ∧
        done.dependencies.size < verdict.dependencies.size ∧
        (verdict.isFlagged = false → done.isFlagged = false) := by
  obtain ⟨verdict, found, analyzed⟩ := exists_verdict inSheet
  refine ⟨verdict, analyzed, not_mem_own_dependencies found, fun member inSet => ?_⟩
  obtain ⟨done, known⟩ := exists_verdict_of_mem_dependencies found inSet
  obtain ⟨cell, isCell, memberAnalyzed⟩ := exists_analyzed_of_verdict known
  have strict := dependencies_ssubset found inSet known
  exact ⟨cell, done, isCell, memberAnalyzed, not_mem_dependencies_of_mem found inSet known, strict,
    AddressSet.size_lt_of_ssubset strict,
    fun unflagged => unflagged_of_mem_dependencies found unflagged inSet known⟩

/-- A cycle, whose first cell reaches the other two, and a chain without a fault. -/
theorem dependencies_nested_in_cycle_and_chain :
    let sheet := ofRows [["B1 D1 +", "C1 A1 *", "B1 2 *", "7"], ["C2 1 +", "9", "B2"]]
    (∃ verdict done : Analysis,
      sheet.analyze.1.get? ⟨0, 0⟩ = some { expression := "B1 D1 +", analysis := some verdict } ∧
      sheet.analyze.1.get? ⟨1, 0⟩ = some { expression := "C1 A1 *", analysis := some done } ∧
      verdict.isFlagged ∧ ⟨1, 0⟩ ∈ verdict.dependencies ∧
      done.dependencies ⊂ verdict.dependencies ∧ ⟨0, 0⟩ ∉ done.dependencies) ∧
    ∃ verdict done : Analysis,
      sheet.analyze.1.get? ⟨0, 1⟩ = some { expression := "C2 1 +", analysis := some verdict } ∧
      sheet.analyze.1.get? ⟨1, 1⟩ = some { expression := "9", analysis := some done } ∧
      verdict.isFlagged = false ∧ ⟨1, 1⟩ ∈ verdict.dependencies ∧ done.isFlagged = false := by
  intro sheet
  constructor
  · obtain ⟨verdict, analyzed, _, members⟩ :=
      dependencies_nested sheet (show sheet.get? ⟨0, 0⟩ = some { expression := "B1 D1 +" } from rfl)
    have recorded : (sheet.analyze.1.get? ⟨0, 0⟩).any (fun cell => cell.analysis.any fun found =>
        found.isFlagged && decide (⟨1, 0⟩ ∈ found.dependencies)) := by decide +kernel
    simp only [analyzed, Option.any_some, Bool.and_eq_true, decide_eq_true_eq] at recorded
    obtain ⟨flagged, inSet⟩ := recorded
    obtain ⟨cell, done, isCell, memberAnalyzed, absent, strict, _⟩ := members _ inSet
    obtain rfl : cell = { expression := "C1 A1 *" } := (Option.some.inj isCell).symm
    exact ⟨verdict, done, analyzed, memberAnalyzed, flagged, inSet, strict, absent⟩
  · obtain ⟨verdict, analyzed, _, members⟩ :=
      dependencies_nested sheet (show sheet.get? ⟨0, 1⟩ = some { expression := "C2 1 +" } from rfl)
    have recorded : (sheet.analyze.1.get? ⟨0, 1⟩).any (fun cell => cell.analysis.any fun found =>
        !found.isFlagged && decide (⟨1, 1⟩ ∈ found.dependencies)) := by decide +kernel
    simp only [analyzed, Option.any_some, Bool.and_eq_true, Bool.not_eq_true', decide_eq_true_eq]
      at recorded
    obtain ⟨unflagged, inSet⟩ := recorded
    obtain ⟨cell, done, isCell, memberAnalyzed, _, _, _, clean⟩ := members _ inSet
    obtain rfl : cell = { expression := "9" } := (Option.some.inj isCell).symm
    exact ⟨verdict, done, analyzed, memberAnalyzed, unflagged, inSet, clean unflagged⟩

end Sheet

end PostfixSheet
