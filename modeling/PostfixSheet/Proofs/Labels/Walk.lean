import PostfixSheet.Proofs.Labels.Basic
import PostfixSheet.Proofs.Walk.Rounds

/-! Where labels are places, the walk that knows cells by their labels does what the walk
over the sheet does. Its maps hold what the table of progress holds, and each of its steps
is one step of the other walk; for this the cells on the path must be cells of the sheet,
since a table takes no entry elsewhere and a map does. So there is one tour of a labelled
sheet, and it ends with the results and the order of the walk over the sheet. -/
namespace PostfixSheet
open Traversal (Invariant Resting)

variable {sheet : Sheet} {traversal : Traversal} {frame : Frame} {below : List Frame}
  {address root : Address} {cell : Cell}

def Progress.mark? : Progress → Option Mark
  | .unvisited _ => none
  | .active => some .active
  | .finished _ => some .finished

/-- The walk with its cells known by their labels. -/
def Traversal.labelled (traversal : Traversal) : LabelledWalk where
  marks address := (traversal.progress.get? address).bind Progress.mark?
  results := traversal.analysis?
  stack := traversal.stack
  order := traversal.order.toList

@[simp] theorem Sheet.get?_labelled :
    sheet.labelled.get? address =
      (sheet.get? address).map fun cell => { toCell := cell, address } :=
  Table.get?_mapAddress

theorem Sheet.locate?_labelled {text : String} (decoded : Address.ofText? text = some address)
    (found : sheet.get? address = some cell) :
    sheet.labelled.locate? text = some (address, { toCell := cell, address }) := by
  refine Table.locate?_eq_some_iff.mpr ⟨decoded, ?_⟩
  rw [get?_labelled, found, Option.map_some]

/-- A label is a place of the sheet, and the cell there has it. -/
theorem Sheet.get?_of_mem_labelled {cell : LabelledCell} (member : cell ∈ sheet.labelled.toList) :
    sheet.get? cell.address = some cell.toCell := by
  obtain ⟨place, found⟩ := Table.mem_toList.mp member
  rw [get?_labelled, Option.map_eq_some_iff] at found
  obtain ⟨source, inSheet, rfl⟩ := found
  exact inSheet

theorem Sheet.map_address_labelled (sheet : Sheet) :
    sheet.labelled.toList.map LabelledCell.address = sheet.addresses := by
  rw [← Table.toList_map, Table.addresses]
  refine congrArg Table.toList (Table.ext_get? ?_ fun address => ?_)
  · simp only [labelled, Table.widths_map, Table.widths_mapAddress]
  · simp only [Table.get?_map, get?_labelled, Table.get?_mapAddress, Option.map_map,
      Function.comp_def]

namespace Traversal

theorem labelled_start (sheet : Sheet) : (start sheet).labelled = {} := by
  refine LabelledWalk.ext (funext fun address => ?_) (funext fun address => ?_) rfl rfl
  · simp only [labelled, start, Table.get?_map]
    cases sheet.get? address <;> rfl
  · simp only [labelled, analysis?, start, Table.get?_map]
    cases sheet.get? address <;> rfl

theorem labelled_enter
    (fresh : traversal.progress.get? root = some (.unvisited (Token.ofExpression cell.expression))) :
    (traversal.enter root (Token.ofExpression cell.expression)).labelled =
      traversal.labelled.enter { toCell := cell, address := root } := by
  refine LabelledWalk.ext (funext fun address => ?_) (analysis?_enter traversal.stack fresh) rfl rfl
  simp only [labelled, enter, LabelledWalk.enter, Table.get?_set, Function.update_apply]
  by_cases here : root = address
  · subst here
    simp [fresh, Progress.mark?]
  · simp [here, Ne.symm here]

theorem labelled_finish (inv : Invariant sheet traversal)
    (onPath : frame.cell ∈ traversal.stack.map Frame.cell) :
    (traversal.finish frame below).labelled = traversal.labelled.finish frame below := by
  refine LabelledWalk.ext (funext fun address => ?_) (funext fun address => ?_) rfl
    Array.toList_push
  · simp only [labelled, finish, LabelledWalk.finish, Table.get?_set, Function.update_apply]
    by_cases here : frame.cell = address
    · subst here
      simp [(inv.active frame.cell).mpr onPath, Progress.mark?]
    · simp [here, Ne.symm here]
  · simp only [labelled, LabelledWalk.finish, Function.update_apply, inv.analysis?_finish onPath,
      eq_comm (a := address)]

/-- A reference leads to the same cell, by its place or by the label found there. -/
theorem labelled_follow (inv : Invariant sheet traversal) (frame : Frame) (below : List Frame)
    (text : String) : (traversal.follow frame below text).labelled =
      traversal.labelled.follow sheet.labelled frame below text := by
  cases located : traversal.progress.locate? text with
  | none =>
    have outside : sheet.labelled.locate? text = none := by
      have shape : ∀ address,
          (sheet.labelled.get? address).isSome = (traversal.progress.get? address).isSome := by
        intro address
        rw [Sheet.get?_labelled, Option.isSome_map, inv.inside]
      have unnamed := Table.map_fst_locate?_congr shape text
      rwa [located, Option.map_none, Option.map_eq_none_iff] at unnamed
    simp only [follow, located, LabelledWalk.follow, outside]
    rfl
  | some entry =>
    obtain ⟨target, progress⟩ := entry
    obtain ⟨decoded, found⟩ := Table.locate?_eq_some_iff.mp located
    have inside := inv.inside target
    rw [found, Option.isSome_some, eq_comm, Option.isSome_iff_exists] at inside
    obtain ⟨cell, inSheet⟩ := inside
    have marked : traversal.labelled.marks target = progress.mark? := by
      simp only [labelled, found, Option.bind_some]
    simp only [follow, located, LabelledWalk.follow, Sheet.locate?_labelled decoded inSheet, marked]
    split
    · rfl
    · cases progress with
      | active => rfl
      | finished done =>
        have stored : traversal.labelled.results target = some done := by
          simp only [labelled, analysis?, found, Option.bind_some, Progress.analysis?]
        simp only [Progress.mark?, stored]
        rfl
      | unvisited tokens =>
        obtain rfl := (inv.unread target tokens found).trans (Sheet.tokensAt_of_get? inSheet)
        exact labelled_enter found

theorem labelled_read (inv : Invariant sheet traversal) (frame : Frame) (below : List Frame)
    (token : Token) : (traversal.read frame below token).labelled =
      traversal.labelled.read sheet.labelled frame below token := by
  cases token with
  | number value => rfl
  | operator kind => rfl
  | invalid text => rfl
  | reference text => exact labelled_follow inv frame below text

theorem labelled_step (inv : Invariant sheet traversal) :
    traversal.step.labelled = traversal.labelled.step sheet.labelled := by
  have stack : traversal.labelled.stack = traversal.stack := rfl
  have results : traversal.labelled.results = traversal.analysis? := rfl
  cases path : traversal.stack with
  | nil => simp only [step, LabelledWalk.step, stack, path]
  | cons top below =>
    have same := Frame.cell_resume traversal.analysis? top
    have onPath : (top.resume traversal.analysis?).cell ∈ traversal.stack.map Frame.cell := by
      rw [path, List.map_cons, same]
      exact List.mem_cons_self
    cases unread : (top.resume traversal.analysis?).tokens with
    | nil =>
      simp only [step, LabelledWalk.step, stack, results, path, unread]
      exact labelled_finish inv onPath
    | cons token tokens =>
      simp only [step, LabelledWalk.step, stack, results, path, unread]
      exact labelled_read inv ..

theorem runs_labelled (inv : Invariant sheet traversal) :
    LabelledWalk.Runs sheet.labelled traversal.labelled traversal.run.labelled := by
  fun_induction run traversal with
  | case1 traversal rests => exact .rest rests
  | case2 traversal busy ih =>
    have later := ih inv.step
    rw [labelled_step inv] at later
    exact .round busy later

theorem marks_labelled_of_unvisited {tokens : List Token}
    (fresh : traversal.progress.get? address = some (.unvisited tokens)) :
    traversal.labelled.marks address = none := by
  simp only [labelled, fresh, Option.bind_some, Progress.mark?]

/-- The label of a cell that was entered is marked. -/
theorem marks_labelled_of_visited (inv : Invariant sheet traversal)
    (found : sheet.get? address = some cell) (visited : traversal.Visited address) :
    traversal.labelled.marks address ≠ none := by
  have inside := inv.inside address
  rw [found, Option.isSome_some, Option.isSome_iff_exists] at inside
  obtain ⟨progress, isKnown⟩ := inside
  cases progress with
  | unvisited tokens => exact absurd isKnown (visited tokens)
  | active => simp [labelled, isKnown, Progress.mark?]
  | finished done => simp [labelled, isKnown, Progress.mark?]

theorem tours_labelled {roots : List LabelledCell} (resting : Resting sheet traversal)
    (placed : ∀ root ∈ roots, sheet.get? root.address = some root.toCell) :
    LabelledWalk.Tours sheet.labelled traversal.labelled roots
      ((roots.map LabelledCell.address).foldl visit traversal).labelled := by
  induction roots generalizing traversal with
  | nil => exact .done
  | cons root roots ih =>
    have atRoot := placed root List.mem_cons_self
    have next := (resting.visit root.address).1
    have later := ih next fun other member => placed other (List.mem_cons_of_mem root member)
    rw [List.map_cons, List.foldl_cons]
    by_cases visited : traversal.Visited root.address
    · rw [visit_of_visited visited] at later ⊢
      exact .skip (marks_labelled_of_visited resting.invariant atRoot visited) later
    · simp only [Visited, ne_eq, not_forall, not_not] at visited
      obtain ⟨tokens, fresh⟩ := visited
      obtain rfl :=
        (resting.invariant.unread _ tokens fresh).trans (Sheet.tokensAt_of_get? atRoot)
      have runs := runs_labelled (resting.enter fresh)
      rw [labelled_enter fresh] at runs
      rw [visit_of_unvisited fresh] at later ⊢
      exact .visit (marks_labelled_of_unvisited fresh) runs later

end Traversal

namespace LabelledWalk

variable {labelled : LabelledSheet} {walk middle last other : LabelledWalk}
  {roots : List LabelledCell}

theorem Runs.unique (runs : Runs labelled walk last) (again : Runs labelled walk other) :
    other = last := by
  induction runs with
  | rest rests =>
    cases again with
    | rest => rfl
    | round busy => exact absurd rests busy
  | round busy _ ih =>
    cases again with
    | rest rests => exact absurd rests busy
    | round _ later => exact ih later

theorem Tours.unique (tours : Tours labelled walk roots last)
    (again : Tours labelled walk roots other) : other = last := by
  induction tours with
  | done =>
    cases again with
    | done => rfl
  | skip marked _ ih =>
    cases again with
    | skip _ later => exact ih later
    | visit fresh => exact absurd fresh marked
  | visit fresh runs _ ih =>
    cases again with
    | skip marked => exact absurd fresh marked
    | visit _ sameRuns later =>
      obtain rfl := runs.unique sameRuns
      exact ih later

end LabelledWalk

/-- There is one tour of the cells of a sheet that are labelled by their places. -/
theorem Sheet.tours_iff (sheet : Sheet) (walk : LabelledWalk) :
    LabelledWalk.Tours sheet.labelled {} sheet.labelled.toList walk ↔
      walk = (Traversal.ofSheet sheet).labelled := by
  have tours := Traversal.tours_labelled (Traversal.resting_start sheet)
    fun _ => get?_of_mem_labelled
  rw [Traversal.labelled_start, map_address_labelled] at tours
  constructor
  · exact fun again => tours.unique again
  · rintro rfl
    exact tours

end PostfixSheet
