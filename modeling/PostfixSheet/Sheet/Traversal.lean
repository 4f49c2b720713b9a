import PostfixSheet.Sheet.Basic

/-! The depth-first walk over the references of a sheet. Every cell is entered
once, in the order in which references lead to it, and its tokens are read left
to right. The path from the root to the cell being read is an explicit stack of
frames, so a chain of references may be as long as the sheet. A reference to a
cell that is still on the path closes a cycle: it ends the reading of the cell
that holds it. A cell whose reading has ended is finished, and later references
to it take over its analysis.

Each step reads one token or finishes one cell, so the tokens not yet read and
the cells not yet finished bound the number of steps. -/
namespace PostfixSheet

inductive Progress where
  | unvisited (tokens : List Token)
  | active
  | finished (analysis : Analysis)
deriving DecidableEq

namespace Progress

def analysis? : Progress → Option Analysis
  | .finished analysis => some analysis
  | _ => none

/-- The steps that a cell still needs and that no frame accounts for. -/
def work : Progress → Nat
  | .unvisited tokens => tokens.length + 1
  | _ => 0

end Progress

/-- A cell on the path, with the tokens that it has yet to read. -/
structure Frame where
  cell : Address
  tokens : List Token
  /-- The cell entered from here, taken in when control returns. -/
  awaiting : Option Address := none
  analysis : Analysis := {}
deriving DecidableEq

namespace Frame

def note (frame : Frame) (fault : Fault) : Frame :=
  { frame with analysis := frame.analysis.note fault }

def absorb (frame : Frame) (child : Address) (done : Analysis) : Frame :=
  { frame with analysis := frame.analysis.absorb child done }

/-- Notes that the path leads back into itself, and reads no further. -/
def closeCycle (frame : Frame) (target : Address) : Frame :=
  { frame.note (.cycle target) with tokens := [] }

/-- Takes in the awaited cell, if there is one, with what is known of finished cells. -/
def resume (finished : Address → Option Analysis) (frame : Frame) : Frame :=
  match frame.awaiting with
  | none => frame
  | some child =>
    match finished child with
    | some done => { frame.absorb child done with awaiting := none }
    | none => { frame with awaiting := none }

def work (frame : Frame) : Nat := frame.tokens.length + 1

@[simp] theorem tokens_resume (finished : Address → Option Analysis) (frame : Frame) :
    (frame.resume finished).tokens = frame.tokens := by
  unfold resume
  split
  · rfl
  · split <;> rfl

end Frame

structure Traversal where
  progress : Table Progress
  /-- The path, innermost cell first. -/
  stack : List Frame := []
  /-- The finished cells, in the order in which they were finished. -/
  order : Array Address := #[]
deriving DecidableEq

namespace Traversal

attribute [local instance (high)] Zero.ofOfNat0

def start (sheet : Sheet) : Traversal :=
  { progress := sheet.map fun cell => .unvisited (Token.ofExpression cell.expression) }

def analysis? (traversal : Traversal) (address : Address) : Option Analysis :=
  (traversal.progress.get? address).bind Progress.analysis?

def enter (traversal : Traversal) (cell : Address) (tokens : List Token) : Traversal :=
  { traversal with
    progress := traversal.progress.set cell .active
    stack := { cell, tokens } :: traversal.stack }

/-- Puts a frame back on top of the path below it. -/
def proceed (traversal : Traversal) (frame : Frame) (below : List Frame) : Traversal :=
  { traversal with stack := frame :: below }

def follow (traversal : Traversal) (frame : Frame) (below : List Frame) (text : String) : Traversal :=
  match traversal.progress.locate? text with
  | none => traversal.proceed (frame.note (.outOfBounds text)) below
  | some (target, progress) =>
    if target = frame.cell then traversal.proceed (frame.note .selfReference) below
    else match progress with
      | .active => traversal.proceed (frame.closeCycle target) below
      | .finished done => traversal.proceed (frame.absorb target done) below
      | .unvisited tokens =>
        (traversal.proceed { frame with awaiting := some target } below).enter target tokens

def read (traversal : Traversal) (frame : Frame) (below : List Frame) : Token → Traversal
  | .number _ | .operator _ => traversal.proceed frame below
  | .invalid text => traversal.proceed (frame.note (.invalidToken text)) below
  | .reference text => traversal.follow frame below text

def finish (traversal : Traversal) (frame : Frame) (below : List Frame) : Traversal where
  progress := traversal.progress.set frame.cell (.finished frame.analysis)
  stack := below
  order := traversal.order.push frame.cell

/-- Reads one token of the innermost cell, or finishes it if none is left. -/
def step (traversal : Traversal) : Traversal :=
  match traversal.stack with
  | [] => traversal
  | top :: below =>
    let frame := top.resume traversal.analysis?
    match frame.tokens with
    | [] => traversal.finish frame below
    | token :: tokens => traversal.read { frame with tokens } below token

def work (traversal : Traversal) : Nat :=
  traversal.progress.total Progress.work + (traversal.stack.map Frame.work).sum

theorem work_proceed (traversal : Traversal) (frame : Frame) (below : List Frame) :
    (traversal.proceed frame below).work =
      traversal.progress.total Progress.work + (frame.work + (below.map Frame.work).sum) := by
  simp [work, proceed]

theorem work_follow_le (traversal : Traversal) (frame : Frame) (below : List Frame) (text : String) :
    (traversal.follow frame below text).work ≤
      traversal.progress.total Progress.work + (frame.work + (below.map Frame.work).sum) := by
  unfold follow
  split
  · exact Nat.le_of_eq (work_proceed ..)
  · rename_i target progress located
    split
    · exact Nat.le_of_eq (work_proceed ..)
    · split
      · rw [work_proceed]
        simp only [Frame.work, Frame.closeCycle, List.length_nil]
        omega
      · exact Nat.le_of_eq (work_proceed ..)
      · rename_i tokens _
        have moved := Table.total_modify Progress.work (fun _ => .active)
          (Table.locate?_eq_some_iff.mp located).2
        simp only [Progress.work, Nat.add_zero] at moved
        simp only [work, enter, proceed, Table.set, List.map_cons, List.sum_cons, Frame.work]
        omega

theorem work_read_le (traversal : Traversal) (frame : Frame) (below : List Frame) (token : Token) :
    (traversal.read frame below token).work ≤
      traversal.progress.total Progress.work + (frame.work + (below.map Frame.work).sum) := by
  cases token with
  | number _ => exact Nat.le_of_eq (work_proceed ..)
  | operator _ => exact Nat.le_of_eq (work_proceed ..)
  | invalid _ => exact Nat.le_of_eq (work_proceed ..)
  | reference text => exact work_follow_le ..

/-- While a path is left, every step leaves less work. -/
theorem work_step_lt {traversal : Traversal} (busy : traversal.stack ≠ []) :
    traversal.step.work < traversal.work := by
  obtain ⟨progress, stack, order⟩ := traversal
  cases stack with
  | nil => exact absurd rfl busy
  | cons top below =>
    generalize resumed : top.resume (analysis? ⟨progress, top :: below, order⟩) = frame
    have kept : frame.tokens = top.tokens := by rw [← resumed, Frame.tokens_resume]
    simp only [step, resumed]
    split
    · have finished := Table.total_set_le Progress.work progress frame.cell
        (show (Progress.finished frame.analysis).work = 0 from rfl)
      simp only [work, finish, List.map_cons, List.sum_cons, Frame.work]
      omega
    · rename_i token tokens unread
      have bound := work_read_le ⟨progress, top :: below, order⟩
        { frame with tokens } below token
      have shorter : top.tokens.length = tokens.length + 1 := by
        rw [← kept, unread, List.length_cons]
      simp only [work, List.map_cons, List.sum_cons, Frame.work] at bound ⊢
      omega

def run (traversal : Traversal) : Traversal :=
  if traversal.stack = [] then traversal else run traversal.step
termination_by traversal.work
decreasing_by exact work_step_lt ‹_›

/-- Walks from a cell, unless it was reached before. -/
def visit (traversal : Traversal) (root : Address) : Traversal :=
  match traversal.progress.get? root with
  | some (.unvisited tokens) => (traversal.enter root tokens).run
  | _ => traversal

/-- Walks from every cell, row by row. -/
def ofSheet (sheet : Sheet) : Traversal := sheet.addresses.foldl visit (start sheet)

end Traversal

end PostfixSheet
