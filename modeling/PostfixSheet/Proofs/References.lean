import PostfixSheet.Sheet.Passes
import Mathlib.Logic.Relation

/-! The reference graph of a sheet. A cell refers to every cell of the sheet
that a reference in its expression names. Whether an expression can be read at
all, which cells it leads to and which cells lie on a cycle is said here by the
expressions alone, with no word about how a walk would find it out. -/
namespace PostfixSheet.Sheet
open Relation

/-- The tokens of a cell, left to right; none where there is no cell. -/
def tokensAt (sheet : Sheet) (address : Address) : List Token :=
  ((sheet.get? address).map fun cell => Token.ofExpression cell.expression).getD []

/-- The cell that a token refers to, if the sheet has it. -/
def targetOf? (sheet : Sheet) : Token → Option Address
  | .reference text => (sheet.locate? text).map Prod.fst
  | _ => none

def targets (sheet : Sheet) (source : Address) : List Address :=
  (sheet.tokensAt source).filterMap sheet.targetOf?

def Refers (sheet : Sheet) (source target : Address) : Prop := target ∈ sheet.targets source

/-- A token that means nothing in this sheet. -/
def Unreadable (sheet : Sheet) : Token → Prop
  | .invalid _ => True
  | .reference text => sheet.locate? text = none
  | .number _ | .operator _ => False

/-- The expression of a cell is at fault by itself. -/
def IsBroken (sheet : Sheet) (address : Address) : Prop :=
  (∃ token ∈ sheet.tokensAt address, sheet.Unreadable token) ∨ sheet.Refers address address

/-- A cycle through the cell and at least one other cell. -/
def OnCycle (sheet : Sheet) (address : Address) : Prop :=
  ∃ other, other ≠ address ∧ TransGen sheet.Refers address other ∧
    TransGen sheet.Refers other address

theorem tokensAt_of_get? {sheet : Sheet} {address : Address} {cell : Cell}
    (found : sheet.get? address = some cell) :
    sheet.tokensAt address = Token.ofExpression cell.expression := by
  simp only [tokensAt, found, Option.map_some, Option.getD_some]

theorem tokensAt_congr {left right : Sheet} {address : Address}
    (same : (left.get? address).map Cell.expression = (right.get? address).map Cell.expression) :
    left.tokensAt address = right.tokensAt address := by
  have here := congrArg (Option.map Token.ofExpression) same
  simp only [Option.map_map] at here
  exact congrArg (Option.getD · []) here

theorem refers_iff {sheet : Sheet} {source target : Address} :
    sheet.Refers source target ↔
      ∃ token ∈ sheet.tokensAt source, sheet.targetOf? token = some target :=
  List.mem_filterMap

theorem targetOf?_reference_eq_some_iff {sheet : Sheet} {text : String} {target : Address} :
    sheet.targetOf? (.reference text) = some target ↔
      Address.ofText? text = some target ∧ (sheet.get? target).isSome := by
  simp only [targetOf?, Option.map_eq_some_iff, Prod.exists, exists_and_right, exists_eq_right,
    Table.locate?_eq_some_iff, Option.isSome_iff_exists, exists_and_left]

theorem targetOf?_of_decoded {sheet : Sheet} {text : String} {address : Address}
    (decoded : Address.ofText? text = some address) :
    sheet.targetOf? (.reference text) = none ∨
      sheet.targetOf? (.reference text) = some address := by
  cases named : sheet.targetOf? (.reference text) with
  | none => exact .inl rfl
  | some target =>
    obtain ⟨isDecoded, _⟩ := targetOf?_reference_eq_some_iff.mp named
    exact .inr (isDecoded.symm.trans decoded)

theorem locate?_eq_none_iff {sheet : Sheet} {text : String} :
    sheet.locate? text = none ↔ sheet.targetOf? (.reference text) = none := by
  simp only [targetOf?, Option.map_eq_none_iff]

theorem mem_addresses_of_refers {sheet : Sheet} {source target : Address}
    (refers : sheet.Refers source target) : source ∈ sheet.addresses := by
  rw [Table.mem_addresses]
  cases found : sheet.get? source with
  | none => simp [Refers, targets, tokensAt, found] at refers
  | some cell => rfl

/-- A set of cells that no reference leaves holds all that its members reach. -/
theorem mem_of_reaches {sheet : Sheet} {cells : List Address} {address reached : Address}
    (closed : ∀ source ∈ cells, ∀ target ∈ sheet.targets source, target ∈ cells)
    (reaches : ReflTransGen sheet.Refers address reached) (member : address ∈ cells) :
    reached ∈ cells := by
  induction reaches with
  | refl => exact member
  | tail _ refers ih => exact closed _ ih _ refers

/-- There is no cycle if some rank is lowered by every reference to another cell. -/
theorem not_onCycle_of_descends {sheet : Sheet} (rank : Address → Nat)
    (descends : ∀ source ∈ sheet.addresses, ∀ target ∈ sheet.targets source,
      target = source ∨ rank target < rank source) (address : Address) :
    ¬sheet.OnCycle address := by
  have lower : ∀ {source reached}, TransGen sheet.Refers source reached →
      reached = source ∨ rank reached < rank source := by
    intro source reached leads
    induction leads with
    | single refers => exact descends _ (mem_addresses_of_refers refers) _ refers
    | tail _ refers ih =>
      rcases descends _ (mem_addresses_of_refers refers) _ refers with rfl | below
      · exact ih
      · exact .inr (ih.elim (fun same => same ▸ below) (Nat.lt_trans below))
  rintro ⟨other, different, leads, back⟩
  have down := (lower leads).resolve_left different
  have up := (lower back).resolve_left different.symm
  exact Nat.lt_asymm down up

theorem Refers.of_expressions {left right : Sheet}
    (same : ∀ address,
      (left.get? address).map Cell.expression = (right.get? address).map Cell.expression)
    {source target : Address} (refers : right.Refers source target) :
    left.Refers source target := by
  have tokens : left.tokensAt source = right.tokensAt source := tokensAt_congr (same source)
  have shape : ∀ address, (left.get? address).isSome = (right.get? address).isSome := by
    intro address
    have there := congrArg Option.isSome (same address)
    simpa only [Option.isSome_map] using there
  obtain ⟨token, member, named⟩ := refers_iff.mp refers
  refine refers_iff.mpr ⟨token, tokens ▸ member, ?_⟩
  cases token with
  | reference text => exact (Table.map_fst_locate?_congr shape text).trans named
  | _ => exact named

end PostfixSheet.Sheet
