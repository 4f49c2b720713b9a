import PostfixSheet.Proofs.Analysis.Completion

/-! Dependency sets. Every member of a cell's set is reached from the cell and
has a lower rank, so no cell is in its own set. Where no cycle of two or more
cells is reached, the set holds every other cell that is reached. -/
namespace PostfixSheet.Sheet
open Relation

variable {sheet : Sheet} {address target member : Address} {verdict : Analysis}

/-- A member is referred to, or it is a member of the set of such a cell. -/
theorem origin_of_mem_dependencies (found : sheet.verdict? address = some verdict)
    (inSet : member ∈ verdict.dependencies) :
    ∃ target done, sheet.Refers address target ∧ sheet.rank target < sheet.rank address ∧
      sheet.verdict? target = some done ∧ (member = target ∨ member ∈ done.dependencies) := by
  rw [verdict_eq_reading found] at inSet
  rcases mem_dependencies_of_reading inSet with inEmpty | ⟨target, named, done, isEarlier, taken⟩
  · exact absurd inEmpty (AddressSet.not_mem_empty member)
  · obtain ⟨lower, known⟩ := earlier?_eq_some_iff.mp isEarlier
    exact ⟨target, done, named, lower, known, taken⟩

theorem leads_of_mem_dependencies (found : sheet.verdict? address = some verdict)
    (inSet : member ∈ verdict.dependencies) :
    TransGen sheet.Refers address member ∧ sheet.rank member < sheet.rank address := by
  induction bound : sheet.rank address using Nat.strongRecOn generalizing address verdict with
  | _ rank ih =>
    subst bound
    obtain ⟨target, done, refers, lower, known, taken⟩ := origin_of_mem_dependencies found inSet
    rcases taken with rfl | deeper
    · exact ⟨.single refers, lower⟩
    · obtain ⟨leads, below⟩ := ih _ lower known deeper rfl
      exact ⟨.head refers leads, below.trans lower⟩

theorem not_mem_own_dependencies (found : sheet.verdict? address = some verdict) :
    address ∉ verdict.dependencies :=
  fun inSet => absurd (leads_of_mem_dependencies found inSet).2 (Nat.lt_irrefl _)

theorem exists_first_step (reaches : ReflTransGen sheet.Refers address member)
    (other : member ≠ address) :
    ∃ target, target ≠ address ∧ sheet.Refers address target ∧
      ReflTransGen sheet.Refers target member := by
  induction reaches using ReflTransGen.head_induction_on with
  | refl => exact absurd rfl other
  | @head source next step rest ih =>
    by_cases itself : next = source
    · subst itself
      exact ih other
    · exact ⟨next, itself, step, rest⟩

theorem mem_dependencies_of_refers (found : sheet.verdict? address = some verdict)
    (unended : sheet.closing? (sheet.earlier? address) address (sheet.tokensAt address) = none)
    (refers : sheet.Refers address target) (other : target ≠ address) :
    sheet.rank target < sheet.rank address ∧ ∃ done, sheet.verdict? target = some done ∧
      ∀ member, member = target ∨ member ∈ done.dependencies → member ∈ verdict.dependencies := by
  obtain ⟨done, isEarlier⟩ := Option.isSome_iff_exists.mp
    (closing?_eq_none_iff.mp unended target refers other)
  obtain ⟨lower, known⟩ := earlier?_eq_some_iff.mp isEarlier
  refine ⟨lower, done, known, fun member taken => ?_⟩
  rw [verdict_eq_reading found]
  exact mem_dependencies_reading unended (.inr ⟨target, refers, other, done, isEarlier, taken⟩)

theorem mem_dependencies_of_reaches (found : sheet.verdict? address = some verdict)
    (acyclic : ∀ reached, ReflTransGen sheet.Refers address reached → ¬sheet.OnCycle reached)
    (reaches : ReflTransGen sheet.Refers address member) (other : member ≠ address) :
    member ∈ verdict.dependencies := by
  induction bound : sheet.rank address using Nat.strongRecOn generalizing address verdict with
  | _ rank ih =>
    subst bound
    obtain ⟨target, notItself, refers, rest⟩ := exists_first_step reaches other
    have unended := closing?_eq_none_of_not_onCycle found (acyclic address .refl)
    obtain ⟨lower, done, known, taken⟩ :=
      mem_dependencies_of_refers found unended refers notItself
    apply taken
    by_cases arrived : member = target
    · exact .inl arrived
    · exact .inr (ih _ lower known (fun reached way => acyclic reached (.head refers way))
        rest arrived rfl)

/-- The dependency set of a cell holds nothing but other cells that are reached,
and all of them where no cycle is reached. -/
theorem dependencies_analyze (sheet : Sheet) {address : Address} {source : Cell}
    (inSheet : sheet.get? address = some source) :
    ∃ verdict : Analysis,
      sheet.analyze.1.get? address = some { source with analysis := some verdict } ∧
      (∀ member ∈ verdict.dependencies,
        TransGen sheet.Refers address member ∧ member ≠ address) ∧
      ((∀ reached, ReflTransGen sheet.Refers address reached → ¬sheet.OnCycle reached) →
        ∀ member, member ∈ verdict.dependencies ↔
          ReflTransGen sheet.Refers address member ∧ member ≠ address) := by
  obtain ⟨verdict, known, analyzed⟩ := exists_verdict inSheet
  have others : ∀ member ∈ verdict.dependencies,
      TransGen sheet.Refers address member ∧ member ≠ address := by
    rintro member inSet
    refine ⟨(leads_of_mem_dependencies known inSet).1, ?_⟩
    rintro rfl
    exact not_mem_own_dependencies known inSet
  refine ⟨verdict, analyzed, others, fun acyclic member => ⟨fun inSet => ?_, ?_⟩⟩
  · exact ⟨(others member inSet).1.to_reflTransGen, (others member inSet).2⟩
  · rintro ⟨reaches, other⟩
    exact mem_dependencies_of_reaches known acyclic reaches other

/-- Faults and a reference to the cell itself hide nothing that is reached. -/
theorem dependencies_analyze_past_faults :
    let sheet := ofRows [["oops B1 Z9 A1 + D1", "C2 ? B2"], ["3", "C2", "5 C2 -"]]
    ∃ verdict : Analysis, sheet.analyze.1.get? ⟨0, 0⟩ =
        some { expression := "oops B1 Z9 A1 + D1", analysis := some verdict } ∧
      ∀ member, member ∈ verdict.dependencies ↔
        ReflTransGen sheet.Refers ⟨0, 0⟩ member ∧ member ≠ ⟨0, 0⟩ := by
  intro sheet
  have inSheet : sheet.get? ⟨0, 0⟩ = some { expression := "oops B1 Z9 A1 + D1" } := rfl
  obtain ⟨verdict, analyzed, _, exactly⟩ := dependencies_analyze sheet inSheet
  refine ⟨verdict, analyzed, exactly fun reached _ => ?_⟩
  exact not_onCycle_of_descends (fun address => 3 - (address.column + address.row))
    (by decide +kernel) reached

end PostfixSheet.Sheet
