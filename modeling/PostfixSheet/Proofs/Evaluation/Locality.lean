import PostfixSheet.Delimited.Sheet
import PostfixSheet.Proofs.Evaluation.Recalculation

/-! Recalculation is local. What becomes of a cell is settled by the cells that it
reaches: by their expressions, and by which of their references name a cell at all.
Two sheets that have these in common give the cell the same flag and the same value,
whatever else they hold and whatever their shapes are. The walk may enter the cells
in another order, close another cycle first and keep another fault; the flag only
says whether a fault is reached, so that none of this shows. -/
namespace PostfixSheet.Sheet
open Relation

variable {left right : Sheet} {address reached target : Address} {verdict done : Analysis}

/-- All that a cell reaches in the first sheet stands in the second one too, and the
references that are met on the way name cells of both sheets or of neither. -/
structure SharesBelow (left right : Sheet) (address : Address) : Prop where
  inside : (left.get? address).isSome
  expressions : ∀ reached, ReflTransGen left.Refers address reached →
    (left.get? reached).map Cell.expression = (right.get? reached).map Cell.expression
  references : ∀ reached, ReflTransGen left.Refers address reached →
    ∀ text, .reference text ∈ left.tokensAt reached →
      ((left.locate? text).isSome ↔ (right.locate? text).isSome)

/-- A cell of both sheets has the same flag and the same value, and is printed alike. -/
def ShowsAlike (left right : Sheet) (address : Address) : Prop :=
  ∃ cell other, left.get? address = some cell ∧ right.get? address = some other ∧
    cell.isFlagged = other.isFlagged ∧ cell.value = other.value ∧
    ∀ marker, cellText marker cell = cellText marker other

theorem cellText_congr {cell other : Cell} {marker : String} (same : cell.value = other.value) :
    cellText marker cell = cellText marker other := by
  rw [cellText, cellText, same]

theorem isSome_locate?_iff {sheet : Sheet} {text : String} :
    (sheet.locate? text).isSome ↔ ∃ target, sheet.targetOf? (.reference text) = some target := by
  rw [← Option.isSome_iff_exists, targetOf?, Option.isSome_map]

theorem targetOf?_eq_some_of_inside {token : Token} (named : left.targetOf? token = some target)
    (inside : (right.get? target).isSome) : right.targetOf? token = some target := by
  cases token with
  | reference text =>
    have decoded := (targetOf?_reference_eq_some_iff.mp named).1
    exact targetOf?_reference_eq_some_iff.mpr ⟨decoded, inside⟩
  | _ => exact named

/-- A text names the same cell in every sheet in which it names one. -/
theorem targetOf?_eq_some_of_located {text : String}
    (located : (left.locate? text).isSome → (right.locate? text).isSome)
    (named : left.targetOf? (.reference text) = some target) :
    right.targetOf? (.reference text) = some target := by
  obtain ⟨other, elsewhere⟩ :=
    isSome_locate?_iff.mp (located (isSome_locate?_iff.mpr ⟨target, named⟩))
  obtain ⟨decoded, _⟩ := targetOf?_reference_eq_some_iff.mp named
  obtain ⟨isDecoded, inside⟩ := targetOf?_reference_eq_some_iff.mp elsewhere
  obtain rfl : target = other := Option.some.inj (decoded.symm.trans isDecoded)
  exact elsewhere

theorem targetOf?_congr {text : String}
    (same : (left.locate? text).isSome ↔ (right.locate? text).isSome) :
    left.targetOf? (.reference text) = right.targetOf? (.reference text) :=
  Option.ext fun _ =>
    ⟨targetOf?_eq_some_of_located same.mp, targetOf?_eq_some_of_located same.mpr⟩

namespace SharesBelow

theorem tokensAt_eq (shared : SharesBelow left right address) :
    left.tokensAt address = right.tokensAt address :=
  tokensAt_congr (shared.expressions address .refl)

theorem targets_eq (shared : SharesBelow left right address) :
    left.targets address = right.targets address := by
  rw [targets, targets, ← shared.tokensAt_eq]
  refine List.filterMap_congr fun token member => ?_
  cases token with
  | reference text => exact targetOf?_congr (shared.references address .refl text member)
  | _ => rfl

theorem refers_iff (shared : SharesBelow left right address) :
    left.Refers address target ↔ right.Refers address target := by
  rw [Refers, Refers, shared.targets_eq]

theorem inside_of_reaches (shared : SharesBelow left right address)
    (reaches : ReflTransGen left.Refers address reached) : (left.get? reached).isSome := by
  rcases reaches.cases_tail with rfl | ⟨_, _, refers⟩
  · exact shared.inside
  · exact inside_of_refers refers

theorem below (shared : SharesBelow left right address)
    (reaches : ReflTransGen left.Refers address reached) : SharesBelow left right reached where
  inside := shared.inside_of_reaches reaches
  expressions further onwards := shared.expressions further (reaches.trans onwards)
  references further onwards := shared.references further (reaches.trans onwards)

theorem reaches_iff (shared : SharesBelow left right address) :
    ReflTransGen left.Refers address reached ↔ ReflTransGen right.Refers address reached := by
  constructor
  · intro reaches
    induction reaches with
    | refl => exact .refl
    | tail before refers ih => exact ih.tail ((shared.below before).refers_iff.mp refers)
  · intro reaches
    induction reaches with
    | refl => exact .refl
    | tail _ refers before => exact before.tail ((shared.below before).refers_iff.mpr refers)

theorem symm (shared : SharesBelow left right address) : SharesBelow right left address where
  inside := by
    have same := congrArg Option.isSome (shared.expressions address .refl)
    rw [Option.isSome_map, Option.isSome_map] at same
    exact same ▸ shared.inside
  expressions further onwards := (shared.expressions further (shared.reaches_iff.mpr onwards)).symm
  references further onwards text member := by
    have reaches := shared.reaches_iff.mpr onwards
    rw [← (shared.below reaches).tokensAt_eq] at member
    exact (shared.references further reaches text member).symm

theorem leads (shared : SharesBelow left right address)
    (leads : TransGen left.Refers address reached) : TransGen right.Refers address reached := by
  obtain ⟨next, refers, rest⟩ := TransGen.head'_iff.mp leads
  refine TransGen.head'_iff.mpr ⟨next, shared.refers_iff.mp refers, ?_⟩
  exact (shared.below (.single refers)).reaches_iff.mp rest

theorem isBroken (shared : SharesBelow left right address) (broken : left.IsBroken address) :
    right.IsBroken address := by
  rcases broken with ⟨token, member, unreadable⟩ | itself
  · refine .inl ⟨token, shared.tokensAt_eq ▸ member, ?_⟩
    cases token with
    | reference text =>
      have same := targetOf?_congr (shared.references address .refl text member)
      exact locate?_eq_none_iff.mpr (same ▸ locate?_eq_none_iff.mp unreadable)
    | _ => exact unreadable
  · exact .inr (shared.refers_iff.mp itself)

theorem onCycle (shared : SharesBelow left right address) (onCycle : left.OnCycle address) :
    right.OnCycle address := by
  obtain ⟨other, different, away, back⟩ := onCycle
  exact ⟨other, different, shared.leads away, (shared.below away.to_reflTransGen).leads back⟩

/-- A fault that is reached in the first sheet is reached in the second one. -/
theorem isFlagged (shared : SharesBelow left right address)
    (known : left.verdict? address = some verdict) (isKnown : right.verdict? address = some done)
    (flagged : verdict.isFlagged) : done.isFlagged := by
  obtain ⟨reached, reaches, fault⟩ := exists_fault_of_isFlagged known flagged
  have there := shared.below reaches
  refine isFlagged_of_fault isKnown (shared.reaches_iff.mp reaches) ?_
  exact fault.imp there.isBroken there.onCycle

theorem isFlagged_eq (shared : SharesBelow left right address)
    (known : left.verdict? address = some verdict) (isKnown : right.verdict? address = some done) :
    verdict.isFlagged = done.isFlagged :=
  Bool.eq_iff_iff.mpr
    ⟨shared.isFlagged known isKnown, shared.symm.isFlagged isKnown known⟩

/-- The cell is computed from the same values, the induction being on the rank in the
first sheet: it falls along the references of an unflagged cell. -/
theorem valueAt?_eq (shared : SharesBelow left right address) :
    left.recalculate.1.valueAt? address = right.recalculate.1.valueAt? address := by
  induction bound : left.rank address using Nat.strongRecOn generalizing address with
  | _ rank ih =>
    subst bound
    obtain ⟨source, inLeft⟩ := Option.isSome_iff_exists.mp shared.inside
    obtain ⟨other, inRight⟩ := Option.isSome_iff_exists.mp shared.symm.inside
    obtain ⟨verdict, known, found⟩ := get?_recalculate inLeft
    obtain ⟨done, isKnown, isFound⟩ := get?_recalculate inRight
    have expression : source.expression = other.expression := by
      simpa only [inLeft, inRight, Option.map_some, Option.some.injEq] using
        shared.expressions address .refl
    simp only [valueAt?, found, isFound, Option.bind_some]
    refine congrArg some (compute_congr expression ?_ fun unflagged text looked reads decoded => ?_)
    · exact shared.isFlagged_eq known isKnown
    have member : .reference text ∈ left.tokensAt address := by rwa [tokensAt_of_get? inLeft]
    have same := targetOf?_congr (shared.references address .refl text member)
    cases named : left.targetOf? (.reference text) with
    | some target =>
      obtain ⟨isDecoded, _⟩ := targetOf?_reference_eq_some_iff.mp named
      obtain rfl : looked = target := Option.some.inj (decoded.symm.trans isDecoded)
      have refers : left.Refers address looked := Sheet.refers_iff.mpr ⟨_, member, named⟩
      have lower := (unflagged_of_refers known unflagged refers).1
      exact ih _ lower (shared.below (.single refers)) rfl
    | none =>
      rw [valueAt?_recalculate_of_unnamed decoded named,
        valueAt?_recalculate_of_unnamed decoded (same ▸ named)]

theorem showsAlike (shared : SharesBelow left right address) :
    left.recalculate.1.ShowsAlike right.recalculate.1 address := by
  obtain ⟨source, inLeft⟩ := Option.isSome_iff_exists.mp shared.inside
  obtain ⟨other, inRight⟩ := Option.isSome_iff_exists.mp shared.symm.inside
  obtain ⟨verdict, known, found⟩ := get?_recalculate inLeft
  obtain ⟨done, isKnown, isFound⟩ := get?_recalculate inRight
  have values := shared.valueAt?_eq
  simp only [valueAt?, found, isFound, Option.bind_some] at values
  exact ⟨_, _, found, isFound, shared.isFlagged_eq known isKnown, values,
    fun marker => cellText_congr values⟩

end SharesBelow

section reached

variable (same : ∀ reached, ReflTransGen left.Refers address reached →
  (left.get? reached).map Cell.expression = (right.get? reached).map Cell.expression)
include same

theorem inside_of_reached (reaches : ReflTransGen left.Refers address reached)
    (inside : (left.get? reached).isSome) : (right.get? reached).isSome := by
  have shape := congrArg Option.isSome (same reached reaches)
  rw [Option.isSome_map, Option.isSome_map] at shape
  exact shape ▸ inside

/-- What is reached is there, so that the references which lead to it still do. -/
theorem targetOf?_of_reached (reaches : ReflTransGen left.Refers address reached) {token : Token}
    (member : token ∈ left.tokensAt reached) (named : left.targetOf? token = some target) :
    right.targetOf? token = some target := by
  have refers : left.Refers reached target := refers_iff.mpr ⟨token, member, named⟩
  exact targetOf?_eq_some_of_inside named
    (inside_of_reached same (reaches.tail refers) (inside_of_refers refers))

theorem reaches_of_reached (reaches : ReflTransGen left.Refers address reached) :
    ReflTransGen right.Refers address reached := by
  induction reaches with
  | refl => exact .refl
  | @tail source next before refers ih =>
    obtain ⟨token, member, named⟩ := refers_iff.mp refers
    refine ih.tail (refers_iff.mpr ⟨token, ?_, targetOf?_of_reached same before member named⟩)
    rwa [← tokensAt_congr (same source before)]

theorem isSome_locate?_of_reached (reaches : ReflTransGen left.Refers address reached)
    {text : String} (member : .reference text ∈ left.tokensAt reached)
    (located : (left.locate? text).isSome) : (right.locate? text).isSome := by
  obtain ⟨target, named⟩ := isSome_locate?_iff.mp located
  exact isSome_locate?_iff.mpr ⟨target, targetOf?_of_reached same reaches member named⟩

end reached

/-- Where the sheets differ in nothing that the cell reaches in one of them, no
reference on the way gains or loses its cell. -/
theorem SharesBelow.of_reached (inside : (left.get? address).isSome)
    (same : ∀ reached, ReflTransGen left.Refers address reached ∨
      ReflTransGen right.Refers address reached →
        (left.get? reached).map Cell.expression = (right.get? reached).map Cell.expression) :
    SharesBelow left right address where
  inside := inside
  expressions reached reaches := same reached (.inl reaches)
  references reached reaches text member := by
    have fromLeft := fun further onwards => same further (.inl onwards)
    have fromRight := fun further onwards => (same further (.inr onwards)).symm
    have tokens := tokensAt_congr (fromLeft reached reaches)
    constructor
    · exact isSome_locate?_of_reached fromLeft reaches member
    · exact isSome_locate?_of_reached fromRight (reaches_of_reached fromLeft reaches)
        (tokens ▸ member)

/-- The flag, the value and the text of a cell are settled by what it reaches. So
they stay when cells are changed, added or taken away that it reaches neither before
nor afterwards. -/
theorem recalculate_local (left right : Sheet) (address : Address) :
    (left.SharesBelow right address →
      left.recalculate.1.ShowsAlike right.recalculate.1 address) ∧
    ((left.get? address).isSome →
      (∀ reached, ReflTransGen left.Refers address reached ∨
        ReflTransGen right.Refers address reached →
          (left.get? reached).map Cell.expression = (right.get? reached).map Cell.expression) →
      left.recalculate.1.ShowsAlike right.recalculate.1 address) := by
  constructor
  · exact SharesBelow.showsAlike
  · intro inside same
    exact (SharesBelow.of_reached inside same).showsAlike

/-- The first cell reaches two others. Around them a cycle is closed, a cell is
broken, and rows get longer and shorter. -/
theorem recalculate_local_beside_cycle :
    let left := ofRows [["B1 2 *", "A2 1 +", "C2"], ["4", "A1 B1 +", "7"]]
    let right := ofRows [["B1 2 *", "A2 1 +", "D1 oops", "C1 A1 +"], ["4"], ["A1"]]
    left.SharesBelow right ⟨0, 0⟩ ∧
      left.recalculate.1.ShowsAlike right.recalculate.1 ⟨0, 0⟩ := by
  intro left right
  let cells : List Address := [⟨0, 0⟩, ⟨1, 0⟩, ⟨0, 1⟩]
  have within : ∀ reached, ReflTransGen left.Refers ⟨0, 0⟩ reached → reached ∈ cells :=
    fun reached reaches => mem_of_reaches (by decide +kernel) reaches List.mem_cons_self
  have same : ∀ reached ∈ cells,
      (left.get? reached).map Cell.expression = (right.get? reached).map Cell.expression := by
    decide +kernel
  have named : ∀ reached ∈ cells, ∀ token ∈ left.tokensAt reached,
      (left.targetOf? token).isSome = (right.targetOf? token).isSome := by
    decide +kernel
  have shared : left.SharesBelow right ⟨0, 0⟩ := by
    refine ⟨by decide +kernel, fun reached reaches => same reached (within reached reaches), ?_⟩
    intro reached reaches text member
    have alike := named reached (within reached reaches) _ member
    rw [targetOf?, targetOf?, Option.isSome_map, Option.isSome_map] at alike
    rw [alike]
  have alike := (recalculate_local left right ⟨0, 0⟩).1 shared
  exact ⟨shared, alike⟩

end PostfixSheet.Sheet
