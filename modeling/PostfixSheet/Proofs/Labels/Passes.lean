import PostfixSheet.Proofs.Labels.Walk
import PostfixSheet.Proofs.Evaluation.Footprint

/-! What an action changes of a labelled sheet. A labelled sheet is a sheet and its labels.
No action changes a label, whatever the labels are. All actions but the analysis do to the
sheet what they would do without labels; the analysis does so where labels are places, as
they are in a fresh sheet. So labels are places after every history, and the sheet below
them is the one that the same history leaves without labels. -/
namespace PostfixSheet

variable {sheet left right : Sheet} {labelled after : LabelledSheet} {order : List Address}
  {action : Sheet.Action} {history : List Sheet.Action}

namespace LabelledSheet

/-- The labels, each at the place of its cell. -/
def labels (labelled : LabelledSheet) : Table Address := labelled.map LabelledCell.address

/-- Every label is the place of its cell. -/
def IsPlaced (labelled : LabelledSheet) : Prop :=
  ∀ place cell, labelled.get? place = some cell → cell.address = place

theorem ext_sheet {left right : LabelledSheet} (sheets : left.sheet = right.sheet)
    (labels : left.labels = right.labels) : left = right := by
  refine Table.ext_get? ?_ fun place => ?_
  · have shape := congrArg Table.widths sheets
    simpa only [sheet, Table.widths_map] using shape
  · have cells := congrArg (Table.get? · place) sheets
    have addresses := congrArg (Table.get? · place) labels
    simp only [sheet, LabelledSheet.labels, Table.get?_map] at cells addresses
    cases inLeft : left.get? place <;> cases inRight : right.get? place <;>
      simp only [inLeft, inRight, Option.map_some, Option.map_none, Option.some.injEq,
        reduceCtorEq] at cells addresses ⊢
    rename_i leftCell rightCell
    obtain ⟨_, _⟩ := leftCell
    obtain ⟨_, _⟩ := rightCell
    rw [LabelledCell.mk.injEq]
    exact ⟨cells, addresses⟩

theorem sheet_write (labelled : LabelledSheet) (place : Address) (change : Cell → Cell) :
    (labelled.write place change).sheet = labelled.sheet.modify place change :=
  Table.map_modify fun _ => rfl

theorem labels_write (labelled : LabelledSheet) (place : Address) (change : Cell → Cell) :
    (labelled.write place change).labels = labelled.labels := by
  refine Table.ext_get? ?_ fun other => ?_
  · simp only [labels, write, Table.widths_map, Table.widths_modify]
  · simp only [labels, write, Table.get?_map, Table.get?_modify]
    split
    · rw [Option.map_map]
      rfl
    · rfl

/-- One step of a pass does to the sheet what it does without labels, and to labels nothing. -/
theorem evaluateAt_spec (labelled : LabelledSheet) (errors : Nat) (place : Address) :
    let next := evaluateAt (labelled, errors) place
    (next.1.sheet, next.2) = Sheet.evaluateAt (labelled.sheet, errors) place ∧
      next.1.labels = labelled.labels := by
  have found : labelled.sheet.get? place = (labelled.get? place).map LabelledCell.toCell :=
    Table.get?_map
  simp only [evaluateAt, Sheet.evaluateAt, found]
  cases labelled.get? place with
  | none => exact ⟨rfl, rfl⟩
  | some cell =>
    refine ⟨?_, labels_write ..⟩
    simp only [Option.map_some, sheet_write, Sheet.setValue]

theorem evaluate_spec (labelled : LabelledSheet) (order : List Address) :
    ((labelled.evaluate order).1.sheet, (labelled.evaluate order).2) =
        labelled.sheet.evaluate order ∧
      (labelled.evaluate order).1.labels = labelled.labels := by
  unfold evaluate Sheet.evaluate
  generalize 0 = errors
  induction order generalizing labelled errors with
  | nil => exact ⟨rfl, rfl⟩
  | cons place order ih =>
    obtain ⟨first, kept⟩ := evaluateAt_spec labelled errors place
    obtain ⟨later, stillKept⟩ := ih (evaluateAt (labelled, errors) place).1
      (evaluateAt (labelled, errors) place).2
    rw [List.foldl_cons, List.foldl_cons, ← first]
    exact ⟨later, stillKept.trans kept⟩

theorem labels_foldl_store (results : Address → Option Analysis) (keys : List Address)
    (labelled : LabelledSheet) : (keys.foldl (store results) labelled).labels = labelled.labels := by
  induction keys generalizing labelled with
  | nil => rfl
  | cons key keys ih => exact (ih _).trans (labels_write ..)

theorem widths_sheet_of_labels {left right : LabelledSheet} (same : left.labels = right.labels) :
    left.sheet.widths = right.sheet.widths := by
  have shape := congrArg Table.widths same
  simpa only [labels, sheet, Table.widths_map] using shape

/-- Each place that a key names holds the result of the key in the end. -/
theorem get?_foldl_store (results : Address → Option Analysis) (keys : List Address)
    (labelled : LabelledSheet) (place : Address) :
    (keys.foldl (store results) labelled).sheet.get? place =
      if place ∈ keys then
        (labelled.sheet.get? place).map fun cell => { cell with analysis := results place }
      else labelled.sheet.get? place := by
  induction keys generalizing labelled with
  | nil => simp
  | cons key keys ih =>
    rw [List.foldl_cons, ih, store, sheet_write, Table.get?_modify]
    by_cases later : place ∈ keys <;> by_cases here : key = place
    · subst here
      simp [later, Function.comp_def]
    · simp [later, here]
    · subst here
      simp [later]
    · simp [later, here, Ne.symm here]

theorem labels_performs (performs : labelled.Performs action after) :
    after.labels = labelled.labels := by
  cases performs with
  | analyze analyzes =>
    cases analyzes with
    | intro tours once covers => exact labels_foldl_store ..
  | schedule order => rfl
  | evaluate order => exact (evaluate_spec labelled order).2
  | reset => exact Table.map_map
  | setValue place value => exact labels_write ..
  | setExpression place expression => exact labels_write ..

end LabelledSheet

namespace Sheet
open LabelledSheet

theorem sheet_labelled (sheet : Sheet) : sheet.labelled.sheet = sheet := by
  refine Table.ext_get? ?_ fun address => ?_
  · simp only [LabelledSheet.sheet, labelled, Table.widths_map, Table.widths_mapAddress]
  · simp only [LabelledSheet.sheet, Table.get?_map, get?_labelled, Option.map_map,
      Function.comp_def, Option.map_id']

theorem isPlaced_labelled (sheet : Sheet) : sheet.labelled.IsPlaced := by
  intro place cell found
  rw [get?_labelled, Option.map_eq_some_iff] at found
  obtain ⟨source, _, rfl⟩ := found
  rfl

/-- Where labels are places, the shape of the sheet fixes them. -/
theorem labels_labelled_congr (shape : left.widths = right.widths) :
    left.labelled.labels = right.labelled.labels := by
  refine Table.ext_get? ?_ fun address => ?_
  · simpa only [labels, labelled, Table.widths_map, Table.widths_mapAddress] using shape
  · have inside : (left.get? address).isSome = (right.get? address).isSome := by
      rw [Bool.eq_iff_iff, Table.isSome_get?_iff, Table.isSome_get?_iff, shape]
    simp only [labels, Table.get?_map, get?_labelled, Option.map_map]
    cases inLeft : left.get? address <;> cases inRight : right.get? address <;>
      simp [inLeft, inRight] at inside ⊢

theorem sheet_analyzes (analyzes : sheet.labelled.Analyzes after order) :
    after.sheet = sheet.analyze.1 ∧ order = sheet.analyze.2 := by
  cases analyzes with
  | @intro walk keys tours once covers =>
    obtain rfl := (tours_iff sheet walk).mp tours
    refine ⟨Table.ext_get? ?_ fun address => ?_, rfl⟩
    · rw [widths_sheet_of_labels (labels_foldl_store ..), sheet_labelled]
      exact Table.widths_mapAddress.symm
    · have stored : address ∈ keys ↔ (sheet.get? address).isSome := by
        rw [covers, ← isSome_verdict?]
        rfl
      rw [get?_foldl_store, sheet_labelled, get?_analyze]
      by_cases listed : address ∈ keys
      · rw [if_pos listed]
        rfl
      · rw [if_neg listed]
        rw [stored, Option.not_isSome_iff_eq_none] at listed
        rw [listed, Option.map_none]

theorem exists_analyzes (sheet : Sheet) :
    ∃ after, sheet.labelled.Analyzes after sheet.analyze.2 := by
  have tours := (tours_iff sheet _).mpr rfl
  refine ⟨_, .intro tours (nodup_completion sheet) fun key => ?_⟩
  rw [mem_completion_iff, ← isSome_verdict?]
  rfl

theorem sheet_performs (performs : sheet.labelled.Performs action after) :
    after.sheet = sheet.perform action := by
  cases performs with
  | analyze analyzes => exact (sheet_analyzes analyzes).1
  | schedule order => exact sheet_labelled sheet
  | evaluate order =>
    have evaluated := congrArg Prod.fst (evaluate_spec sheet.labelled order).1
    rwa [sheet_labelled] at evaluated
  | reset =>
    calc
      LabelledSheet.sheet (sheet.labelled.map fun cell => { cell with analysis := none, value := none })
      _ = sheet.labelled.sheet.reset := by
        simp only [LabelledSheet.sheet, reset, Table.map_map, Function.comp_def]
      _ = sheet.reset := by rw [sheet_labelled]
  | setValue place value =>
    rw [sheet_write, sheet_labelled]
    rfl
  | setExpression place expression =>
    rw [sheet_write, sheet_labelled]
    rfl

theorem exists_performs (sheet : Sheet) (action : Action) :
    ∃ after, sheet.labelled.Performs action after := by
  cases action with
  | analyze =>
    obtain ⟨after, analyzes⟩ := exists_analyzes sheet
    exact ⟨after, .analyze analyzes⟩
  | schedule order => exact ⟨_, .schedule order⟩
  | evaluate order => exact ⟨_, .evaluate order⟩
  | reset => exact ⟨_, .reset⟩
  | setValue place value => exact ⟨_, .setValue place value⟩
  | setExpression place expression => exact ⟨_, .setExpression place expression⟩

/-- Where labels are places, an action leaves the sheet that it leaves without labels,
and labels are places again. -/
theorem performs_labelled_iff (sheet : Sheet) (action : Action) (after : LabelledSheet) :
    sheet.labelled.Performs action after ↔ after = (sheet.perform action).labelled := by
  have determined : ∀ after, sheet.labelled.Performs action after →
      after = (sheet.perform action).labelled := by
    intro after performs
    refine ext_sheet ?_ ?_
    · rw [sheet_performs performs, sheet_labelled]
    · rw [labels_performs performs, labels_labelled_congr (widths_perform sheet action)]
  constructor
  · exact determined after
  · rintro rfl
    obtain ⟨after, performs⟩ := exists_performs sheet action
    exact determined after performs ▸ performs

theorem replays_labelled_iff (sheet : Sheet) (history : List Action) (after : LabelledSheet) :
    sheet.labelled.Replays history after ↔ after = (sheet.replay history).labelled := by
  induction history generalizing sheet with
  | nil =>
    constructor
    · intro replays
      cases replays
      rfl
    · rintro rfl
      exact .nil
  | cons action history ih =>
    have first := performs_labelled_iff sheet action
    constructor
    · intro replays
      cases replays with
      | cons performs later =>
        obtain rfl := (first _).mp performs
        exact (ih _).mp later
    · rintro rfl
      exact .cons ((first _).mpr rfl) ((ih _).mpr rfl)

theorem labelled_ofRows (rows : List (List String)) :
    LabelledSheet.ofRows rows = (ofRows rows).labelled := by
  rw [LabelledSheet.ofRows, ofRows, labelled, Table.mapAddress, List.mapIdx_toArray]
  refine congrArg (fun rows => Table.mk (List.toArray rows)) (List.ext_getElem? fun row => ?_)
  rw [List.getElem?_mapIdx, List.getElem?_mapIdx, List.getElem?_map]
  cases rows[row]? with
  | none => rfl
  | some fields =>
    simp only [Option.map_some, List.mapIdx_toArray]
    refine congrArg (some ∘ List.toArray) (List.ext_getElem? fun column => ?_)
    rw [List.getElem?_mapIdx, List.getElem?_mapIdx, List.getElem?_map]
    cases fields[column]? <;> rfl

/-- A pass of evaluation changes the values of the listed cells that the sheet has, and
nothing else, labels included. The last position of a cell decides on its value, and the
pass counts the positions that give an error. After every history a sheet has the shape
that it had at first and labels are places; an action changes an expression only by writing
it, and analyses only by analyzing or forgetting them. -/
theorem passes_frame :
    (∀ (sheet : Sheet) (order : List Address),
      (sheet.evaluate order).1.widths = sheet.widths ∧
      (∀ address, address ∉ order →
        (sheet.evaluate order).1.get? address = sheet.get? address) ∧
      (∀ before address after cell, order = before ++ address :: after → address ∉ after →
        sheet.get? address = some cell →
          ∃ value, sheet.computedAt? order before.length = some value ∧
            (sheet.evaluate order).1.get? address = some { cell with value := some value }) ∧
      (sheet.evaluate order).2 =
        (List.range order.length).countP fun position =>
          sheet.computedAt? order position = some .error) ∧
    (∀ (labelled : LabelledSheet) (order : List Address),
      ((labelled.evaluate order).1.sheet, (labelled.evaluate order).2) =
          labelled.sheet.evaluate order ∧
        (labelled.evaluate order).1.labels = labelled.labels) ∧
    ∀ (rows : List (List String)) (history : List Action),
      let now := (ofRows rows).replay history
      now.widths = (ofRows rows).widths ∧
      (∃ labelled, (LabelledSheet.ofRows rows).Replays history labelled) ∧
      (∀ labelled, (LabelledSheet.ofRows rows).Replays history labelled →
        labelled.sheet = now ∧ labelled.IsPlaced) ∧
      ∀ action address,
        ((∀ text, action ≠ .setExpression address text) →
          ((now.perform action).get? address).map Cell.expression =
            (now.get? address).map Cell.expression) ∧
        (action ≠ .analyze → action ≠ .reset →
          ((now.perform action).get? address).map Cell.analysis =
            (now.get? address).map Cell.analysis) := by
  refine ⟨fun sheet order => ?_, evaluate_spec, fun rows history => ?_⟩
  · refine ⟨widths_evaluate sheet order, ?_, ?_, snd_evaluate_eq_countP sheet order⟩
    · exact fun address absent => get?_evaluate_of_not_mem absent
    · rintro before address after cell rfl last found
      exact ⟨_, computedAt?_of_split found, get?_evaluate_of_last found last⟩
  · intro now
    have replays := replays_labelled_iff (ofRows rows) history
    rw [← labelled_ofRows] at replays
    refine ⟨widths_replay (ofRows rows) history, ⟨_, (replays _).mpr rfl⟩, ?_, ?_⟩
    · intro labelled replayed
      obtain rfl := (replays labelled).mp replayed
      exact ⟨sheet_labelled now, isPlaced_labelled now⟩
    · intro action address
      exact ⟨expression_perform, fun notAnalyze notReset =>
        analysis_perform notAnalyze notReset address⟩

/-- The list names one cell twice, and a cell that the sheet has not; the sheet was not
analyzed. When the pass first comes to the cell there is no value to read yet. -/
theorem passes_frame_cell_listed_twice :
    let rows := [["B1 1 +", "2", "A1 oops"]]
    let order : List Address := [⟨0, 0⟩, ⟨25, 8⟩, ⟨1, 0⟩, ⟨0, 0⟩]
    let history : List Action := [.analyze, .evaluate order, .setExpression ⟨1, 0⟩ "C1", .reset]
    let sheet := ofRows rows
    (sheet.evaluate order).1.get? ⟨2, 0⟩ = some { expression := "A1 oops" } ∧
      (∃ value, sheet.computedAt? order 3 = some value ∧ value.isError = false ∧
        (sheet.evaluate order).1.get? ⟨0, 0⟩ =
          some { expression := "B1 1 +", value := some value }) ∧
      (sheet.evaluate order).2 = 1 ∧
      ∃ labelled, (LabelledSheet.ofRows rows).Replays history labelled ∧
        labelled.sheet = sheet.replay history ∧ labelled.IsPlaced := by
  intro rows order history sheet
  obtain ⟨ofPass, -, ofHistory⟩ := passes_frame
  obtain ⟨-, unlisted, listed, count⟩ := ofPass sheet order
  have last : (⟨0, 0⟩ : Address) ∉ ([] : List Address) := List.not_mem_nil
  have atLast := listed [⟨0, 0⟩, ⟨25, 8⟩, ⟨1, 0⟩] ⟨0, 0⟩ [] { expression := "B1 1 +" } rfl last rfl
  obtain ⟨value, computed, holds⟩ := atLast
  have succeeds : (sheet.computedAt? order 3).map Value.isError = some false := by decide +kernel
  have once : ((List.range order.length).countP fun position =>
      sheet.computedAt? order position = some .error) = 1 := by
    decide +kernel
  obtain ⟨-, ⟨labelled, replays⟩, placed, -⟩ := ofHistory rows history
  refine ⟨unlisted ⟨2, 0⟩ (by decide), ⟨value, computed, ?_, holds⟩, count.trans once, ?_⟩
  · have there : sheet.computedAt? order 3 = some value := computed
    rw [there] at succeeds
    exact Option.some.inj succeeds
  · exact ⟨labelled, replays, placed labelled replays⟩

end Sheet

end PostfixSheet
