import PostfixSheet.Proofs.References

/-! One reading of a cell's tokens, left to right, when the analyses of some
cells are known. A reference to a known cell takes that cell in; a reference to
a cell that is not known closes a cycle and ends the reading. The fault that a
reading finds and the cells that it takes in are said token by token, without
the order of reading. -/
namespace PostfixSheet.Sheet

variable {sheet : Sheet} {known : Address → Option Analysis} {cell : Address}

def reading (sheet : Sheet) (known : Address → Option Analysis) (cell : Address) :
    List Token → Analysis → Analysis
  | [], analysis => analysis
  | .number _ :: tokens, analysis => reading sheet known cell tokens analysis
  | .operator _ :: tokens, analysis => reading sheet known cell tokens analysis
  | .invalid text :: tokens, analysis =>
      reading sheet known cell tokens (analysis.note (.invalidToken text))
  | .reference text :: tokens, analysis =>
      match sheet.targetOf? (.reference text) with
      | none => reading sheet known cell tokens (analysis.note (.outOfBounds text))
      | some target =>
        if target = cell then reading sheet known cell tokens (analysis.note .selfReference)
        else match known target with
          | none => analysis.note (.cycle target)
          | some found => reading sheet known cell tokens (analysis.absorb target found)

/-- The reference that ends a reading before the last token. -/
def closing? (sheet : Sheet) (known : Address → Option Analysis) (cell : Address)
    (tokens : List Token) : Option Address :=
  (tokens.filterMap sheet.targetOf?).find? fun target => target ≠ cell ∧ (known target).isNone

/-- A token that leaves a fault when it is read. -/
def Spoils (sheet : Sheet) (known : Address → Option Analysis) (cell : Address)
    (token : Token) : Prop :=
  sheet.Unreadable token ∨ ∃ target, sheet.targetOf? token = some target ∧
    (target = cell ∨ ∀ found, known target = some found → found.isFlagged)

theorem isFlagged_reading {tokens : List Token} {analysis : Analysis} :
    (sheet.reading known cell tokens analysis).isFlagged ↔
      analysis.isFlagged ∨ ∃ token ∈ tokens, sheet.Spoils known cell token := by
  fun_induction reading sheet known cell tokens analysis with
  | case1 analysis => simp
  | case2 analysis value tokens ih => simp [ih, Spoils, Unreadable, targetOf?]
  | case3 analysis kind tokens ih => simp [ih, Spoils, Unreadable, targetOf?]
  | case4 analysis text tokens ih => simp [ih, Spoils, Unreadable]
  | case5 analysis text tokens outside ih =>
    simp [ih, Spoils, Unreadable, locate?_eq_none_iff, outside]
  | case6 analysis text tokens inside ih => simp [ih, Spoils, inside]
  | case7 analysis text tokens target inside other unknown => simp [Spoils, inside, unknown]
  | case8 analysis text tokens target inside other found isKnown ih =>
    simp [ih, Spoils, Unreadable, locate?_eq_none_iff, inside, other, isKnown, or_assoc]

/-- Everything that a reading takes in comes from a known cell that is referred to. -/
theorem mem_dependencies_of_reading {tokens : List Token} {analysis : Analysis} {address : Address}
    (member : address ∈ (sheet.reading known cell tokens analysis).dependencies) :
    address ∈ analysis.dependencies ∨ ∃ target ∈ tokens.filterMap sheet.targetOf?,
      ∃ found, known target = some found ∧ (address = target ∨ address ∈ found.dependencies) := by
  fun_induction reading sheet known cell tokens analysis with
  | case1 analysis => exact .inl member
  | case2 analysis value tokens ih => simpa [targetOf?] using ih member
  | case3 analysis kind tokens ih => simpa [targetOf?] using ih member
  | case4 analysis text tokens ih => simpa [targetOf?] using ih member
  | case5 analysis text tokens outside ih => simpa [outside] using ih member
  | case6 analysis text tokens inside ih =>
    rw [List.filterMap_cons_some inside]
    rcases ih member with before | ⟨target, inRest, taken⟩
    · exact .inl before
    · exact .inr ⟨target, List.mem_cons_of_mem _ inRest, taken⟩
  | case7 analysis text tokens target inside other unknown => exact .inl member
  | case8 analysis text tokens target inside other found isKnown ih =>
    rw [List.filterMap_cons_some inside]
    rcases ih member with before | ⟨later, inRest, taken⟩
    · rcases Analysis.mem_dependencies_absorb.mp before with direct | before | indirect
      · exact .inr ⟨target, List.mem_cons_self, found, isKnown, .inl direct⟩
      · exact .inl before
      · exact .inr ⟨target, List.mem_cons_self, found, isKnown, .inr indirect⟩
    · exact .inr ⟨later, List.mem_cons_of_mem _ inRest, taken⟩

theorem closing?_eq_none_iff {tokens : List Token} :
    sheet.closing? known cell tokens = none ↔
      ∀ target ∈ tokens.filterMap sheet.targetOf?, target ≠ cell → (known target).isSome := by
  rw [closing?, List.find?_eq_none]
  refine forall₂_congr fun target _ => ?_
  simp [Option.isSome_iff_ne_none]

theorem closing?_cons_of_none {token : Token} {tokens : List Token}
    (skipped : sheet.targetOf? token = none) :
    sheet.closing? known cell (token :: tokens) = sheet.closing? known cell tokens := by
  simp only [closing?, List.filterMap_cons_none skipped]

theorem closing?_cons_of_some {token : Token} {tokens : List Token} {target : Address}
    (named : sheet.targetOf? token = some target) :
    sheet.closing? known cell (token :: tokens) =
      if target ≠ cell ∧ (known target).isNone then some target
      else sheet.closing? known cell tokens := by
  simp only [closing?, List.filterMap_cons_some named, List.find?_cons]
  split <;> simp_all

/-- A reading that runs to the end takes in every other cell that is referred to. -/
theorem mem_dependencies_reading {tokens : List Token} {analysis : Analysis}
    (complete : sheet.closing? known cell tokens = none) {address : Address}
    (origin : address ∈ analysis.dependencies ∨ ∃ target ∈ tokens.filterMap sheet.targetOf?,
      target ≠ cell ∧ ∃ found, known target = some found ∧
        (address = target ∨ address ∈ found.dependencies)) :
    address ∈ (sheet.reading known cell tokens analysis).dependencies := by
  fun_induction reading sheet known cell tokens analysis with
  | case1 analysis => simpa using origin
  | case2 analysis value tokens ih => exact ih complete (by simpa [targetOf?] using origin)
  | case3 analysis kind tokens ih => exact ih complete (by simpa [targetOf?] using origin)
  | case4 analysis text tokens ih => exact ih complete (by simpa [targetOf?] using origin)
  | case5 analysis text tokens outside ih =>
    rw [closing?_cons_of_none outside] at complete
    exact ih complete (by simpa [outside] using origin)
  | case6 analysis text tokens inside ih =>
    rw [closing?_cons_of_some inside, if_neg (by simp)] at complete
    refine ih complete ?_
    rcases origin with before | ⟨target, member, other, taken⟩
    · exact .inl before
    · rw [List.filterMap_cons_some inside] at member
      exact .inr ⟨target, (List.mem_cons.mp member).resolve_left other, other, taken⟩
  | case7 analysis text tokens target inside other unknown =>
    rw [closing?_cons_of_some inside, if_pos ⟨other, by simp [unknown]⟩] at complete
    contradiction
  | case8 analysis text tokens target inside other found isKnown ih =>
    rw [closing?_cons_of_some inside, if_neg (by simp [isKnown])] at complete
    refine ih complete ?_
    rcases origin with before | ⟨later, member, otherLater, taken⟩
    · exact .inl (Analysis.mem_dependencies_absorb.mpr (.inr (.inl before)))
    · rw [List.filterMap_cons_some inside] at member
      rcases List.mem_cons.mp member with rfl | inRest
      · obtain ⟨again, alsoKnown, reached⟩ := taken
        obtain rfl : found = again := Option.some.inj (isKnown.symm.trans alsoKnown)
        exact .inl (Analysis.mem_dependencies_absorb.mpr (reached.imp_right .inr))
      · exact .inr ⟨later, inRest, otherLater, taken⟩

end PostfixSheet.Sheet
