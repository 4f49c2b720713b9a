import PostfixSheet.Proofs.Analysis.Completion

/-! Flags. A verdict without a fault passes along every reference to cells of
lower rank, so nothing that is reached from an unflagged cell is broken or on a
cycle. In the other direction a fault is found in the cell itself, or it closes
a cycle, or it was passed on from a cell of lower rank. Together: a cell is
flagged exactly if it reaches a broken cell or a cycle, whatever the order in
which the cells were entered and wherever a reading was ended. -/
namespace PostfixSheet.Sheet
open Relation

variable {sheet : Sheet} {address target reached : Address} {verdict done : Analysis}

theorem isFlagged_verdict (found : sheet.verdict? address = some verdict) :
    verdict.isFlagged ↔
      ∃ token ∈ sheet.tokensAt address, sheet.Spoils (sheet.earlier? address) address token := by
  rw [verdict_eq_reading found, isFlagged_reading]
  exact or_iff_right (by simp [Analysis.isFlagged])

/-- All that an unflagged cell refers to is of lower rank and unflagged. -/
theorem unflagged_of_refers (found : sheet.verdict? address = some verdict)
    (unflagged : verdict.isFlagged = false) (refers : sheet.Refers address target) :
    sheet.rank target < sheet.rank address ∧
      ∃ done, sheet.verdict? target = some done ∧ done.isFlagged = false := by
  obtain ⟨token, member, named⟩ := refers_iff.mp refers
  by_contra spoiled
  have flagged : verdict.isFlagged := by
    refine (isFlagged_verdict found).mpr ⟨token, member, .inr ⟨target, named, .inr ?_⟩⟩
    intro done isEarlier
    obtain ⟨lower, known⟩ := earlier?_eq_some_iff.mp isEarlier
    by_contra clean
    exact spoiled ⟨lower, done, known, by simpa using clean⟩
  simp [unflagged] at flagged

theorem unflagged_of_reaches (found : sheet.verdict? address = some verdict)
    (unflagged : verdict.isFlagged = false) (reaches : ReflTransGen sheet.Refers address reached) :
    ∃ done, sheet.verdict? reached = some done ∧ done.isFlagged = false := by
  induction reaches with
  | refl => exact ⟨verdict, found, unflagged⟩
  | tail _ refers ih =>
    obtain ⟨done, known, clean⟩ := ih
    exact (unflagged_of_refers known clean refers).2

theorem isFlagged_of_reaches (found : sheet.verdict? address = some verdict)
    (reaches : ReflTransGen sheet.Refers address reached)
    (known : sheet.verdict? reached = some done) (flagged : done.isFlagged) :
    verdict.isFlagged := by
  by_contra unflagged
  obtain ⟨same, isKnown, clean⟩ := unflagged_of_reaches found (by simpa using unflagged) reaches
  obtain rfl : done = same := Option.some.inj (known.symm.trans isKnown)
  simp [clean] at flagged

theorem rank_lt_of_leads (found : sheet.verdict? address = some verdict)
    (unflagged : verdict.isFlagged = false) (leads : TransGen sheet.Refers address reached) :
    sheet.rank reached < sheet.rank address := by
  induction leads with
  | single refers => exact (unflagged_of_refers found unflagged refers).1
  | tail leads refers ih =>
    obtain ⟨done, known, clean⟩ := unflagged_of_reaches found unflagged leads.to_reflTransGen
    exact (unflagged_of_refers known clean refers).1.trans ih

theorem isFlagged_of_isBroken (found : sheet.verdict? address = some verdict)
    (broken : sheet.IsBroken address) : verdict.isFlagged := by
  rw [isFlagged_verdict found]
  rcases broken with ⟨token, member, unreadable⟩ | itself
  · exact ⟨token, member, .inl unreadable⟩
  · obtain ⟨token, member, named⟩ := refers_iff.mp itself
    exact ⟨token, member, .inr ⟨address, named, .inl rfl⟩⟩

theorem isFlagged_of_onCycle (found : sheet.verdict? address = some verdict)
    (onCycle : sheet.OnCycle address) : verdict.isFlagged := by
  by_contra unflagged
  obtain ⟨other, _, leads, back⟩ := onCycle
  exact Nat.lt_irrefl _ (rank_lt_of_leads found (by simpa using unflagged) (leads.trans back))

/-- A fault has its cause in the cell, in a cycle through it, or in a cell of
lower rank that it refers to. -/
theorem cause_of_isFlagged (found : sheet.verdict? address = some verdict)
    (flagged : verdict.isFlagged) :
    sheet.IsBroken address ∨ sheet.OnCycle address ∨
      ∃ target done, sheet.Refers address target ∧ sheet.rank target < sheet.rank address ∧
        sheet.verdict? target = some done ∧ done.isFlagged := by
  obtain ⟨token, member, unreadable | ⟨target, named, cause⟩⟩ :=
    (isFlagged_verdict found).mp flagged
  · exact .inl (.inl ⟨token, member, unreadable⟩)
  have refers : sheet.Refers address target := refers_iff.mpr ⟨token, member, named⟩
  rcases cause with rfl | spoiled
  · exact .inl (.inr refers)
  cases closed : sheet.closing? (sheet.earlier? address) address (sheet.tokensAt address) with
  | some back => exact .inr (.inl (onCycle_of_closing found closed))
  | none =>
    by_cases itself : target = address
    · exact .inl (.inr (itself ▸ refers))
    · obtain ⟨done, isEarlier⟩ := Option.isSome_iff_exists.mp
        (closing?_eq_none_iff.mp closed target refers itself)
      obtain ⟨lower, known⟩ := earlier?_eq_some_iff.mp isEarlier
      exact .inr (.inr ⟨target, done, refers, lower, known, spoiled done isEarlier⟩)

theorem exists_fault_of_isFlagged (found : sheet.verdict? address = some verdict)
    (flagged : verdict.isFlagged) :
    ∃ reached, ReflTransGen sheet.Refers address reached ∧
      (sheet.IsBroken reached ∨ sheet.OnCycle reached) := by
  induction bound : sheet.rank address using Nat.strongRecOn generalizing address verdict with
  | _ rank ih =>
    subst bound
    rcases cause_of_isFlagged found flagged with
      broken | onCycle | ⟨target, done, refers, lower, known, passedOn⟩
    · exact ⟨address, .refl, .inl broken⟩
    · exact ⟨address, .refl, .inr onCycle⟩
    · obtain ⟨reached, reaches, fault⟩ := ih _ lower known passedOn rfl
      exact ⟨reached, .head refers reaches, fault⟩

/-- A flagged cell has a token that means nothing or that leads to a flagged cell. -/
theorem exists_faulty_token (found : sheet.verdict? address = some verdict)
    (flagged : verdict.isFlagged) :
    ∃ token ∈ sheet.tokensAt address, sheet.Unreadable token ∨
      ∃ target done, sheet.targetOf? token = some target ∧
        sheet.verdict? target = some done ∧ done.isFlagged := by
  rcases cause_of_isFlagged found flagged with
    (⟨token, member, unreadable⟩ | itself) | ⟨other, _, leads, back⟩ |
      ⟨target, done, refers, _, known, passedOn⟩
  · exact ⟨token, member, .inl unreadable⟩
  · obtain ⟨token, member, named⟩ := refers_iff.mp itself
    exact ⟨token, member, .inr ⟨address, verdict, named, found, flagged⟩⟩
  · obtain ⟨target, refers, rest⟩ := TransGen.head'_iff.mp (leads.trans back)
    obtain ⟨done, known⟩ := exists_verdict_of_refers refers
    obtain ⟨token, member, named⟩ := refers_iff.mp refers
    exact ⟨token, member, .inr ⟨target, done, named, known,
      isFlagged_of_reaches known rest found flagged⟩⟩
  · obtain ⟨token, member, named⟩ := refers_iff.mp refers
    exact ⟨token, member, .inr ⟨target, done, named, known, passedOn⟩⟩

theorem isFlagged_of_fault (found : sheet.verdict? address = some verdict)
    (reaches : ReflTransGen sheet.Refers address reached)
    (fault : sheet.IsBroken reached ∨ sheet.OnCycle reached) : verdict.isFlagged := by
  obtain ⟨done, known⟩ := exists_verdict_of_reaches found reaches
  refine isFlagged_of_reaches found reaches known ?_
  rcases fault with broken | onCycle
  · exact isFlagged_of_isBroken known broken
  · exact isFlagged_of_onCycle known onCycle

/-- A cell is flagged exactly if it is broken or on a cycle, or if it reaches
such a cell. -/
theorem isFlagged_analyze_iff (sheet : Sheet) {address : Address} {source : Cell}
    (inSheet : sheet.get? address = some source) :
    ∃ cell, sheet.analyze.1.get? address = some cell ∧
      (cell.isFlagged ↔ ∃ reached, ReflTransGen sheet.Refers address reached ∧
        (sheet.IsBroken reached ∨ sheet.OnCycle reached)) := by
  obtain ⟨verdict, known, analyzed⟩ := exists_verdict inSheet
  refine ⟨_, analyzed, ?_⟩
  simp only [Cell.isFlagged, Option.any_some]
  constructor
  · exact exists_fault_of_isFlagged known
  · rintro ⟨reached, reaches, fault⟩
    exact isFlagged_of_fault known reaches fault

/-- A cell that leads into a cycle without lying on it is flagged. -/
theorem isFlagged_analyze_feeding_cycle :
    let sheet := ofRows [["B2 1 +"], ["7", "A3"], ["A2 B2 *"]]
    (sheet.analyze.1.get? ⟨0, 0⟩).any Cell.isFlagged ∧
      ∃ reached, ReflTransGen sheet.Refers ⟨0, 0⟩ reached ∧
        (sheet.IsBroken reached ∨ sheet.OnCycle reached) := by
  intro sheet
  have inSheet : sheet.get? ⟨0, 0⟩ = some { expression := "B2 1 +" } := rfl
  have flagged : (sheet.analyze.1.get? ⟨0, 0⟩).any Cell.isFlagged := by decide +kernel
  obtain ⟨cell, analyzed, exactly⟩ := isFlagged_analyze_iff sheet inSheet
  refine ⟨flagged, exactly.mp ?_⟩
  simpa only [analyzed, Option.any_some] using flagged

end PostfixSheet.Sheet
