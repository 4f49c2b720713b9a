import PostfixSheet.Proofs.References
import PostfixSheet.Proofs.Evaluation.Lookup
import Mathlib.Data.List.Induction

/-! Evaluation in an admissible order. Such an order lists every cell once, and
every unflagged cell behind all cells that it refers to. Then a cell is computed
from final values, so that at the end every cell holds what it would be computed to
again: the sheet is settled. There is only one way to settle a sheet, so neither
the values from before nor the order can be told from the result. -/
namespace PostfixSheet.Sheet

variable {sheet left right : Sheet} {address : Address} {order : List Address}

/-- The sheet without its values. -/
def bare (sheet : Sheet) : Sheet := sheet.map fun cell => { cell with value := none }

/-- Every listed cell holds what it is computed to from the values of the others. -/
def SettledOn (sheet : Sheet) (cells : List Address) : Prop :=
  ∀ address ∈ cells, ∀ cell, sheet.get? address = some cell →
    cell.value = some (sheet.compute cell)

/-- Every cell is listed once, and an unflagged cell behind all that it refers to. -/
structure Admissible (sheet : Sheet) (order : List Address) : Prop where
  once : order.Nodup
  covers : ∀ address, (sheet.get? address).isSome → address ∈ order
  inputs : ∀ before address after, order = before ++ address :: after →
    ∀ cell, sheet.get? address = some cell → cell.isFlagged = false →
      ∀ target, sheet.Refers address target → target ∈ before

theorem bare_bare (sheet : Sheet) : sheet.bare.bare = sheet.bare := Table.map_map

theorem bare_setValue (sheet : Sheet) (address : Address) (value : Option Value) :
    (sheet.setValue address value).bare = sheet.bare := by
  refine Table.ext_get? (by simp only [bare, setValue, Table.widths_map, Table.widths_modify])
    fun other => ?_
  simp only [bare, setValue, Table.get?_map, Table.get?_modify]
  split
  · cases sheet.get? other <;> rfl
  · rfl

theorem bare_evaluate (sheet : Sheet) (order : List Address) :
    (sheet.evaluate order).1.bare = sheet.bare := by
  unfold evaluate
  generalize 0 = errors
  induction order generalizing sheet errors with
  | nil => rfl
  | cons address order ih =>
    rw [List.foldl_cons]
    simp only [evaluateAt]
    split
    · exact ih sheet errors
    · exact (ih _ _).trans (bare_setValue ..)

section bare

variable (same : left.bare = right.bare)
include same

theorem get?_of_bare {cell : Cell} (found : right.get? address = some cell) :
    ∃ value, left.get? address = some { cell with value } := by
  have there := congrArg (Table.get? · address) same
  simp only [bare, Table.get?_map, found, Option.map_some, Option.map_eq_some_iff] at there
  obtain ⟨other, inLeft, alike⟩ := there
  obtain ⟨expression, analysis, value⟩ := other
  cases alike
  exact ⟨value, inLeft⟩

theorem widths_of_bare : left.widths = right.widths := by
  have shape := congrArg Table.widths same
  simpa only [bare, Table.widths_map] using shape

theorem map_get?_of_bare {β : Type} {view : Cell → β}
    (blind : ∀ cell value, view { cell with value } = view cell) (address : Address) :
    (left.get? address).map view = (right.get? address).map view := by
  have there := congrArg (fun sheet => (Table.get? sheet address).map view) same
  simpa only [bare, Table.get?_map, Option.map_map, Function.comp_def, blind] using there

theorem isSome_get?_of_bare (address : Address) :
    (left.get? address).isSome = (right.get? address).isSome := by
  have there := congrArg (fun sheet => (Table.get? sheet address).isSome) same
  simpa only [bare, Table.get?_map, Option.isSome_map] using there

theorem get?_eq_none_of_bare (absent : right.get? address = none) : left.get? address = none := by
  have shape := isSome_get?_of_bare same address
  rwa [absent, Option.isSome_none, Option.isSome_eq_false_iff, Option.isNone_iff_eq_none] at shape

theorem addresses_of_bare : left.addresses = right.addresses := by
  have addresses := congrArg Table.addresses same
  simpa only [bare, Table.addresses_map] using addresses

theorem refers_of_bare {source target : Address} (refers : right.Refers source target) :
    left.Refers source target := by
  exact refers.of_expressions (map_get?_of_bare same fun _ _ => rfl)

theorem Admissible.of_bare (admissible : left.Admissible order) : right.Admissible order where
  once := admissible.once
  covers address inside := admissible.covers address (isSome_get?_of_bare same address ▸ inside)
  inputs before address after split cell found unflagged target refers := by
    obtain ⟨value, inLeft⟩ := get?_of_bare same found
    exact admissible.inputs before address after split _ inLeft unflagged target
      (refers_of_bare same refers)

/-- Two sheets that differ in nothing but values differ in a value. -/
theorem eq_of_bare (values : ∀ address, left.valueAt? address = right.valueAt? address) :
    left = right := by
  refine Table.ext_get? (widths_of_bare same) fun address => ?_
  cases found : right.get? address with
  | none => exact get?_eq_none_of_bare same found
  | some cell =>
    obtain ⟨value, inLeft⟩ := get?_of_bare same found
    have alike := values address
    simp only [valueAt?, found, inLeft, Option.bind_some] at alike
    rw [inLeft, alike]

end bare

/-- A cell is computed from the values that its references name and no others. -/
theorem compute_congr {cell other : Cell} (expression : cell.expression = other.expression)
    (flags : cell.isFlagged = other.isFlagged)
    (values : cell.isFlagged = false → ∀ text address,
      .reference text ∈ Token.ofExpression cell.expression →
        Address.ofText? text = some address → left.valueAt? address = right.valueAt? address) :
    left.compute cell = right.compute other := by
  unfold compute
  rw [← flags, ← expression]
  split
  · rfl
  · rename_i unflagged
    simp only [Formula.evaluate,
      Formula.evaluateTokens_congr (values (by simpa using unflagged))]

theorem get?_setValue_of_ne {other : Address} (different : address ≠ other)
    (value : Option Value) : (sheet.setValue address value).get? other = sheet.get? other := by
  rw [setValue, Table.get?_modify, if_neg different]

theorem valueAt?_setValue_of_ne {other : Address} (different : address ≠ other)
    (value : Option Value) :
    (sheet.setValue address value).valueAt? other = sheet.valueAt? other := by
  simp only [valueAt?, get?_setValue_of_ne different]

theorem Admissible.mem_of_decoded (admissible : sheet.Admissible order)
    {before after : List Address} (split : order = before ++ address :: after) {cell : Cell}
    (found : sheet.get? address = some cell) (unflagged : cell.isFlagged = false) {text : String}
    (member : .reference text ∈ Token.ofExpression cell.expression) {other : Address}
    (decoded : Address.ofText? text = some other) (inside : (sheet.get? other).isSome) :
    other ∈ before := by
  refine admissible.inputs before address after split cell found unflagged other ?_
  refine refers_iff.mpr ⟨.reference text, ?_, targetOf?_reference_eq_some_iff.mpr ⟨decoded, inside⟩⟩
  rwa [tokensAt_of_get? found]

/-- Computing the next cell settles it and unsettles none of the cells before it. -/
theorem SettledOn.setValue {before after : List Address} {cell : Cell}
    (settled : sheet.SettledOn before) (admissible : sheet.Admissible (before ++ address :: after))
    (found : sheet.get? address = some cell) :
    (sheet.setValue address (some (sheet.compute cell))).SettledOn (before ++ [address]) := by
  have fresh : address ∉ before := fun member =>
    (List.nodup_append.mp admissible.once).2.2 address member address List.mem_cons_self rfl
  have inside : (sheet.get? address).isSome := by rw [found, Option.isSome_some]
  intro other member current inNext
  simp only [Sheet.setValue, Table.get?_modify] at inNext
  split at inNext
  · rename_i here
    subst here
    rw [found, Option.map_some, Option.some.injEq] at inNext
    subst inNext
    refine congrArg some (compute_congr rfl rfl fun unflagged text looked reads decoded => ?_)
    refine (valueAt?_setValue_of_ne ?_ _).symm
    rintro rfl
    exact fresh (admissible.mem_of_decoded rfl found unflagged reads decoded inside)
  · rename_i different
    have earlier : other ∈ before := by
      rcases List.mem_append.mp member with earlier | last
      · exact earlier
      · exact absurd (List.mem_singleton.mp last).symm different
    rw [settled other earlier current inNext]
    refine congrArg some (compute_congr rfl rfl fun unflagged text looked reads decoded => ?_)
    refine (valueAt?_setValue_of_ne ?_ _).symm
    rintro rfl
    obtain ⟨first, second, rfl⟩ := List.append_of_mem earlier
    have split : first ++ other :: second ++ address :: after =
        first ++ other :: (second ++ address :: after) := by simp
    exact fresh (List.mem_append_left _
      (admissible.mem_of_decoded split inNext unflagged reads decoded inside))

theorem settledOn_foldl {before after : List Address} {errors : Nat}
    (settled : sheet.SettledOn before) (admissible : sheet.Admissible (before ++ after)) :
    (after.foldl evaluateAt (sheet, errors)).1.SettledOn (before ++ after) := by
  induction after generalizing sheet errors before with
  | nil => simpa using settled
  | cons address after ih =>
    rw [List.foldl_cons, List.append_cons]
    simp only [evaluateAt]
    split
    · rename_i outside
      refine ih (fun other member cell found => ?_) (List.append_cons .. ▸ admissible)
      rcases List.mem_append.mp member with earlier | last
      · exact settled other earlier cell found
      · rw [List.mem_singleton.mp last, outside] at found
        contradiction
    · rename_i cell found
      refine ih (settled.setValue admissible found) ?_
      rw [← List.append_cons]
      exact admissible.of_bare (bare_setValue ..).symm

theorem Admissible.settledOn_evaluate (admissible : sheet.Admissible order) :
    (sheet.evaluate order).1.SettledOn order :=
  have unsettled : sheet.SettledOn [] := fun _ member => absurd member List.not_mem_nil
  settledOn_foldl unsettled admissible

/-- Where the values of the cells before agree, the next values agree, since they
are computed from them. -/
theorem SettledOn.valueAt?_eq (same : left.bare = right.bare) (admissible : left.Admissible order)
    (leftSettled : left.SettledOn order) (rightSettled : right.SettledOn order)
    {before after : List Address} (split : order = before ++ address :: after)
    (agree : ∀ other ∈ before, left.valueAt? other = right.valueAt? other) :
    left.valueAt? address = right.valueAt? address := by
  have listed : address ∈ order := split ▸ List.mem_append_right _ List.mem_cons_self
  cases found : right.get? address with
  | none => simp only [valueAt?, found, get?_eq_none_of_bare same found]
  | some cell =>
    obtain ⟨value, inLeft⟩ := get?_of_bare same found
    have leftValue := leftSettled address listed _ inLeft
    have rightValue := rightSettled address listed _ found
    simp only [valueAt?, found, inLeft, Option.bind_some]
    refine leftValue.trans (.trans (congrArg some ?_) rightValue.symm)
    refine compute_congr rfl rfl fun unflagged text looked reads decoded => ?_
    cases present : left.get? looked with
    | none => simp only [valueAt?, present, get?_eq_none_of_bare same.symm present]
    | some target =>
      refine agree looked (admissible.mem_of_decoded split inLeft unflagged reads decoded ?_)
      rw [present, Option.isSome_some]

/-- Settled sheets that differ in nothing but values do not differ. -/
theorem SettledOn.unique (same : left.bare = right.bare) (admissible : left.Admissible order)
    (leftSettled : left.SettledOn order) (rightSettled : right.SettledOn order) : left = right := by
  have prefixes : ∀ before after, order = before ++ after →
      ∀ address ∈ before, left.valueAt? address = right.valueAt? address := by
    intro before
    induction before using List.reverseRecOn with
    | nil => simp
    | append_singleton before last ih =>
      intro after split address member
      rw [List.append_assoc, List.singleton_append] at split
      rcases List.mem_append.mp member with earlier | isLast
      · exact ih _ split address earlier
      · obtain rfl := List.mem_singleton.mp isLast
        exact leftSettled.valueAt?_eq same admissible rightSettled split (ih _ split)
  refine eq_of_bare same fun address => ?_
  cases found : right.get? address with
  | none => simp only [valueAt?, found, get?_eq_none_of_bare same found]
  | some cell =>
    refine prefixes order [] (by simp) address (admissible.covers address ?_)
    rw [isSome_get?_of_bare same, found, Option.isSome_some]

end PostfixSheet.Sheet
