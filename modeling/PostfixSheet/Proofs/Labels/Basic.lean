import PostfixSheet.Proofs.Evaluation.History
import Mathlib.Logic.Function.Basic

/-! Sheets whose cells carry an address of their own. Such a label is a field like any
other; nothing in the type says that it is the place of its cell. Cells are found by their
places, since that is what a written address and a list of cells name, but the walk knows
a cell by its label alone: marks and results are kept in maps from labels, and a result is
written to the place that its label names when the walk is over. The passes are stated here
for any labels, as relations where they loop or where a map is read out in no fixed order. -/
namespace PostfixSheet

structure LabelledCell extends Cell where
  address : Address
deriving DecidableEq

abbrev LabelledSheet := Table LabelledCell

/-- How far the walk has come with a cell; a cell without a mark was not reached. -/
inductive Mark where
  | active
  | finished
deriving DecidableEq

/-- A walk that knows cells by their labels. -/
@[ext]
structure LabelledWalk where
  marks : Address → Option Mark := fun _ => none
  results : Address → Option Analysis := fun _ => none
  /-- The path, innermost cell first. -/
  stack : List Frame := []
  /-- The finished cells, in the order in which they were finished. -/
  order : List Address := []

namespace LabelledWalk

def enter (walk : LabelledWalk) (cell : LabelledCell) : LabelledWalk :=
  { walk with
    marks := Function.update walk.marks cell.address (some .active)
    stack := { cell := cell.address, tokens := Token.ofExpression cell.expression } :: walk.stack }

def proceed (walk : LabelledWalk) (frame : Frame) (below : List Frame) : LabelledWalk :=
  { walk with stack := frame :: below }

/-- Reads a reference. The text leads to a place, and the label found there says which
cell it is. -/
def follow (labelled : LabelledSheet) (walk : LabelledWalk) (frame : Frame) (below : List Frame)
    (text : String) : LabelledWalk :=
  match labelled.locate? text with
  | none => walk.proceed (frame.note (.outOfBounds text)) below
  | some (_, target) =>
    if target.address = frame.cell then walk.proceed (frame.note .selfReference) below
    else match walk.marks target.address with
      | some .active => walk.proceed (frame.closeCycle target.address) below
      | some .finished =>
        match walk.results target.address with
        | some done => walk.proceed (frame.absorb target.address done) below
        | none => walk.proceed frame below
      | none =>
        (walk.proceed { frame with awaiting := some target.address } below).enter target

def read (labelled : LabelledSheet) (walk : LabelledWalk) (frame : Frame) (below : List Frame) :
    Token → LabelledWalk
  | .number _ | .operator _ => walk.proceed frame below
  | .invalid text => walk.proceed (frame.note (.invalidToken text)) below
  | .reference text => walk.follow labelled frame below text

def finish (walk : LabelledWalk) (frame : Frame) (below : List Frame) : LabelledWalk where
  marks := Function.update walk.marks frame.cell (some .finished)
  results := Function.update walk.results frame.cell (some frame.analysis)
  stack := below
  order := walk.order ++ [frame.cell]

def step (labelled : LabelledSheet) (walk : LabelledWalk) : LabelledWalk :=
  match walk.stack with
  | [] => walk
  | top :: below =>
    let frame := top.resume walk.results
    match frame.tokens with
    | [] => walk.finish frame below
    | token :: tokens => walk.read labelled { frame with tokens } below token

/-- One step after the other, until no path is left. -/
inductive Runs (labelled : LabelledSheet) : LabelledWalk → LabelledWalk → Prop
  | rest {walk : LabelledWalk} (rests : walk.stack = []) : Runs labelled walk walk
  | round {walk last : LabelledWalk} (busy : walk.stack ≠ [])
      (later : Runs labelled (walk.step labelled) last) : Runs labelled walk last

/-- Walks from the roots one after the other, each unless its label is marked. -/
inductive Tours (labelled : LabelledSheet) :
    LabelledWalk → List LabelledCell → LabelledWalk → Prop
  | done {walk : LabelledWalk} : Tours labelled walk [] walk
  | skip {walk last : LabelledWalk} {root : LabelledCell} {roots : List LabelledCell}
      (marked : walk.marks root.address ≠ none) (later : Tours labelled walk roots last) :
      Tours labelled walk (root :: roots) last
  | visit {walk middle last : LabelledWalk} {root : LabelledCell} {roots : List LabelledCell}
      (fresh : walk.marks root.address = none) (runs : Runs labelled (walk.enter root) middle)
      (later : Tours labelled middle roots last) : Tours labelled walk (root :: roots) last

end LabelledWalk

/-- The labelled sheet in which every label is the place of its cell. -/
def Sheet.labelled (sheet : Sheet) : LabelledSheet :=
  sheet.mapAddress fun address cell => { toCell := cell, address }

namespace LabelledSheet

def sheet (labelled : LabelledSheet) : Sheet := labelled.map LabelledCell.toCell

/-- A fresh sheet. This is where the labels are given. -/
def ofRows (rows : List (List String)) : LabelledSheet :=
  ⟨(rows.mapIdx fun row fields => (fields.mapIdx fun column field =>
    { expression := field, address := ⟨column, row⟩ : LabelledCell }).toArray).toArray⟩

def write (labelled : LabelledSheet) (place : Address) (change : Cell → Cell) : LabelledSheet :=
  labelled.modify place fun cell => { cell with toCell := change cell.toCell }

def evaluateAt (state : LabelledSheet × Nat) (place : Address) : LabelledSheet × Nat :=
  let (labelled, errors) := state
  match labelled.get? place with
  | none => (labelled, errors)
  | some cell =>
    let value := labelled.sheet.compute cell.toCell
    (labelled.write place fun cell => { cell with value := some value },
      if value.isError then errors + 1 else errors)

def evaluate (labelled : LabelledSheet) (order : List Address) : LabelledSheet × Nat :=
  order.foldl evaluateAt (labelled, 0)

/-- Writes a result of the walk to the place that its label names. -/
def store (results : Address → Option Analysis) (labelled : LabelledSheet) (key : Address) :
    LabelledSheet :=
  labelled.write key fun cell => { cell with analysis := results key }

/-- A tour of all cells, row by row, and then the results, each written once, in
whatever order they come. -/
inductive Analyzes (labelled : LabelledSheet) : LabelledSheet → List Address → Prop
  | intro {walk : LabelledWalk} {keys : List Address}
      (tours : LabelledWalk.Tours labelled {} labelled.toList walk) (once : keys.Nodup)
      (covers : ∀ key, key ∈ keys ↔ (walk.results key).isSome) :
      Analyzes labelled (keys.foldl (store walk.results) labelled) walk.order

inductive Performs (labelled : LabelledSheet) : Sheet.Action → LabelledSheet → Prop
  | analyze {after : LabelledSheet} {order : List Address}
      (analyzes : labelled.Analyzes after order) : Performs labelled .analyze after
  | schedule (order : List Address) : Performs labelled (.schedule order) labelled
  | evaluate (order : List Address) :
      Performs labelled (.evaluate order) (labelled.evaluate order).1
  | reset : Performs labelled .reset
      (labelled.map fun cell => { cell with analysis := none, value := none })
  | setValue (place : Address) (value : Option Value) :
      Performs labelled (.setValue place value) (labelled.write place fun cell => { cell with value })
  | setExpression (place : Address) (expression : String) :
      Performs labelled (.setExpression place expression)
        (labelled.write place fun cell => { cell with expression })

inductive Replays : LabelledSheet → List Sheet.Action → LabelledSheet → Prop
  | nil {labelled : LabelledSheet} : Replays labelled [] labelled
  | cons {labelled middle after : LabelledSheet} {action : Sheet.Action}
      {history : List Sheet.Action} (first : labelled.Performs action middle)
      (later : Replays middle history after) : Replays labelled (action :: history) after

end LabelledSheet

end PostfixSheet
