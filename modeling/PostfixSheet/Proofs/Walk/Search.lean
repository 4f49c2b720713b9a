import PostfixSheet.Proofs.Walk.Path
import PostfixSheet.Sheet.Passes

/-! Depth-first search said by recursion. To visit a cell is to mark it, to scan
its tokens and to finish it with what the scan found. A reference to a cell
without a mark visits that cell first, wherever in the scan it stands, and then
takes in its analysis. The path lives in the recursion here, so nothing is kept
but the marks and the order. The walk with its stack of frames goes through the
same searches: above any path, a frame comes to the end of its tokens with what
the scan finds. So the walk and the search give the same order of completion
and the same analyses. -/
namespace PostfixSheet

/-- The marks of the cells, and the finished cells in the order of finishing. -/
structure Search where
  progress : Table Progress
  order : Array Address := #[]

namespace Search

/-- The cells without a mark and their tokens: what is left to do. -/
def work (search : Search) : Nat := search.progress.total Progress.work

def analysis? (search : Search) (address : Address) : Option Analysis :=
  (search.progress.get? address).bind Progress.analysis?

def mark (search : Search) (cell : Address) : Search :=
  { search with progress := search.progress.set cell .active }

def finish (search : Search) (cell : Address) (analysis : Analysis) : Search where
  progress := search.progress.set cell (.finished analysis)
  order := search.order.push cell

/-- Takes a finished child into an analysis. -/
def merge (search : Search) (child : Address) (analysis : Analysis) : Analysis :=
  match search.analysis? child with
  | some done => analysis.absorb child done
  | none => analysis

theorem work_mark {search : Search} {cell : Address} {tokens : List Token}
    (fresh : search.progress.get? cell = some (.unvisited tokens)) :
    (search.mark cell).work + tokens.length + 1 = search.work := by
  have moved := Table.total_modify Progress.work (fun _ => .active) fresh
  simp only [Progress.work, Nat.add_zero] at moved
  exact moved

theorem work_finish_le (search : Search) (cell : Address) (analysis : Analysis) :
    (search.finish cell analysis).work ≤ search.work :=
  Table.total_set_le Progress.work search.progress cell rfl

-- A visit may lead through any number of cells, and the scan goes on after it. It ends
-- because no visit adds to what is left to do, which the results carry with them.
mutual

/-- Marks a cell, scans its tokens and finishes it, unless it has a mark. -/
def visit (search : Search) (cell : Address) : { next : Search // next.work ≤ search.work } :=
  match fresh : search.progress.get? cell with
  | some (.unvisited tokens) =>
    let ⟨(next, analysis), scanned⟩ := (search.mark cell).scan cell tokens {}
    ⟨next.finish cell analysis, by
      have marked := work_mark fresh
      have kept : next.work ≤ (search.mark cell).work := scanned
      have finished := work_finish_le next cell analysis
      omega⟩
  | _ => ⟨search, Nat.le_refl _⟩
termination_by search.work
decreasing_by
  have marked := work_mark fresh
  omega

/-- Adds to the analysis of a cell what the tokens that are left say. -/
def scan (search : Search) (cell : Address) (tokens : List Token) (analysis : Analysis) :
    { result : Search × Analysis // result.1.work ≤ search.work } :=
  match tokens with
  | [] => ⟨(search, analysis), Nat.le_refl _⟩
  | .number _ :: tokens | .operator _ :: tokens => search.scan cell tokens analysis
  | .invalid text :: tokens => search.scan cell tokens (analysis.note (.invalidToken text))
  | .reference text :: tokens =>
    match search.progress.locate? text with
    | none => search.scan cell tokens (analysis.note (.outOfBounds text))
    | some (target, progress) =>
      if target = cell then search.scan cell tokens (analysis.note .selfReference)
      else match progress with
        | .active => ⟨(search, analysis.note (.cycle target)), Nat.le_refl _⟩
        | .finished done => search.scan cell tokens (analysis.absorb target done)
        | .unvisited _ =>
          let ⟨next, visited⟩ := search.visit target
          let ⟨result, scanned⟩ := next.scan cell tokens (next.merge target analysis)
          ⟨result, Nat.le_trans scanned visited⟩
termination_by search.work + tokens.length
decreasing_by
  all_goals simp only [List.length_cons]
  all_goals omega

end

/-- No cell has a mark. -/
def start (sheet : Sheet) : Search :=
  { progress := sheet.map fun cell => .unvisited (Token.ofExpression cell.expression) }

/-- Visits the cells that have no mark yet, row by row. -/
def ofSheet (sheet : Sheet) : Search :=
  sheet.addresses.foldl (fun search root => (search.visit root).val) (start sheet)

variable {search : Search} {cell target : Address} {text : String}
  {tokens targetTokens : List Token} {analysis : Analysis}

theorem visit_of_fresh (fresh : search.progress.get? cell = some (.unvisited tokens)) :
    (search.visit cell).val = ((search.mark cell).scan cell tokens {}).val.1.finish cell
      ((search.mark cell).scan cell tokens {}).val.2 := by
  rw [visit]
  split
  · rename_i found
    obtain rfl : tokens = _ := by simpa [fresh] using found
    rfl
  · rename_i known
    exact absurd fresh (known tokens)

theorem visit_of_marked
    (marked : ∀ tokens, search.progress.get? cell ≠ some (.unvisited tokens)) :
    (search.visit cell).val = search := by
  rw [visit]
  split
  · rename_i found
    exact absurd found (marked _)
  · rfl

theorem scan_of_fresh
    (located : search.progress.locate? text = some (target, .unvisited targetTokens))
    (other : target ≠ cell) :
    (search.scan cell (.reference text :: tokens) analysis).val =
      ((search.visit target).val.scan cell tokens
        ((search.visit target).val.merge target analysis)).val := by
  rw [scan]
  simp only [located, if_neg other]

/-- The search in the midst of a walk that has a path to return to. -/
def onto (search : Search) (path : List Frame) : Traversal :=
  ⟨search.progress, path, search.order⟩

end Search

namespace Traversal

theorem run_of_rest {traversal : Traversal} (rests : traversal.stack = []) :
    traversal.run = traversal := by
  rw [run, if_pos rests]

theorem run_step (traversal : Traversal) : traversal.step.run = traversal.run := by
  cases rests : traversal.stack with
  | nil => rw [step, rests]
  | cons top below =>
    conv => rhs; rw [run, if_neg (by simp [rests])]

end Traversal

namespace Search

variable {search : Search} {cell : Address} {tokens : List Token} {path : List Frame}

theorem stack_onto : (search.onto path).stack = path := rfl

theorem analysis?_onto : (search.onto path).analysis? = search.analysis? := rfl

theorem run_token (search : Search) (cell : Address) (token : Token) (tokens : List Token)
    (analysis : Analysis) (below : List Frame) :
    (search.onto ({ cell, tokens := token :: tokens, analysis } :: below)).run =
      ((search.onto below).read { cell, tokens, analysis } below token).run :=
  (Traversal.run_step _).symm

theorem run_end (search : Search) (cell : Address) (analysis : Analysis) (below : List Frame) :
    (search.onto ({ cell, tokens := [], analysis } :: below)).run =
      ((search.finish cell analysis).onto below).run :=
  (Traversal.run_step _).symm

/-- A frame that gets control back may as well have taken in its child before. -/
theorem run_resume (search : Search) (frame : Frame) (below : List Frame) :
    (search.onto (frame :: below)).run =
      (search.onto (frame.resume search.analysis? :: below)).run := by
  have again : (frame.resume search.analysis?).resume search.analysis? =
      frame.resume search.analysis? :=
    Frame.resume_of_free (Frame.awaiting_resume search.analysis? frame)
  -- A step looks at the top frame only as it is after resuming.
  have same : (search.onto (frame.resume search.analysis? :: below)).step =
      (search.onto (frame :: below)).step := by
    simp only [Traversal.step, stack_onto, analysis?_onto, again]
    rfl
  rw [← Traversal.run_step, ← same, Traversal.run_step]

theorem resume_awaiting (search : Search) (cell child : Address) (tokens : List Token)
    (analysis : Analysis) :
    Frame.resume search.analysis? { cell, tokens, awaiting := some child, analysis } =
      { cell, tokens, analysis := search.merge child analysis } := by
  simp only [Frame.resume, merge]
  cases search.analysis? child <;> rfl

/-- Above any path, a walk brings a frame to the end of its tokens with what the
search scans. -/
def Scans (search : Search) (cell : Address) (tokens : List Token) (analysis : Analysis) : Prop :=
  ∀ below, (search.onto ({ cell, tokens, analysis } :: below)).run =
    ((search.scan cell tokens analysis).val.1.onto
      ({ cell, tokens := [], analysis := (search.scan cell tokens analysis).val.2 } :: below)).run

/-- Above any path, a walk that enters a cell comes back with what the search visits. -/
def Visits (search : Search) (cell : Address) : Prop :=
  ∀ path tokens, search.progress.get? cell = some (.unvisited tokens) →
    ((search.onto path).enter cell tokens).run = ((search.visit cell).val.onto path).run

theorem Scans.visits (scans : Scans (search.mark cell) cell tokens {})
    (fresh : search.progress.get? cell = some (.unvisited tokens)) : Visits search cell := by
  intro path other found
  obtain rfl : tokens = other := by simpa [fresh] using found
  have scanned := scans path
  rw [run_end, ← visit_of_fresh fresh] at scanned
  exact scanned

/-- One case for each thing that a token can be, by recursion through the visits. -/
theorem scans (search : Search) (cell : Address) (tokens : List Token) (analysis : Analysis) :
    Scans search cell tokens analysis := by
  induction search, cell, tokens, analysis using scan.induct Visits with
  | case1 search cell tokens fresh _ _ _ _ ih => exact ih.visits fresh
  | case2 search cell marked =>
    intro path tokens found
    exact absurd found (marked tokens)
  | case3 search cell analysis =>
    intro below
    rw [scan]
  | case4 search cell analysis value tokens ih =>
    intro below
    rw [run_token, scan]
    exact ih below
  | case5 search cell analysis kind tokens ih =>
    intro below
    rw [run_token, scan]
    exact ih below
  | case6 search cell analysis text tokens ih =>
    intro below
    rw [run_token, scan]
    exact ih below
  | case7 search cell analysis text tokens outside ih =>
    intro below
    rw [run_token, scan]
    simp only [Traversal.read, Traversal.follow, onto, outside]
    exact ih below
  | case8 search analysis text tokens target progress located ih =>
    intro below
    rw [run_token, scan]
    simp only [Traversal.read, Traversal.follow, onto, located, if_true]
    exact ih below
  | case9 search cell analysis text tokens target other located =>
    -- Closing a cycle leaves the frame without tokens.
    intro below
    rw [run_token, scan]
    simp only [Traversal.read, Traversal.follow, onto, located, if_neg other]
    rfl
  | case10 search cell analysis text tokens target other done located ih =>
    intro below
    rw [run_token, scan]
    simp only [Traversal.read, Traversal.follow, onto, located, if_neg other]
    exact ih below
  | case11 search cell analysis text tokens target other targetTokens next _ visited _ _ _
      located visits scans =>
    -- The frame waits below while the target is visited, and goes on from there.
    intro below
    have fresh := (Table.locate?_eq_some_iff.mp located).2
    have entered := visits ({ cell, tokens, awaiting := some target, analysis } :: below) _ fresh
    rw [visited, run_resume, resume_awaiting] at entered
    rw [run_token, scan_of_fresh located other, visited]
    simp only [Traversal.read, Traversal.follow, onto, located, if_neg other]
    exact entered.trans (scans below)

theorem visit_onto (search : Search) (root : Address) :
    (search.onto []).visit root = (search.visit root).val.onto [] := by
  unfold Traversal.visit
  split
  · rename_i tokens fresh
    have visits := (scans (search.mark root) root tokens {}).visits fresh
    rw [visits [] tokens fresh]
    exact Traversal.run_of_rest rfl
  · rename_i marked
    rw [visit_of_marked marked]

theorem foldl_visit_onto (search : Search) (roots : List Address) :
    roots.foldl Traversal.visit (search.onto []) =
      (roots.foldl (fun search root => (search.visit root).val) search).onto [] := by
  induction roots generalizing search with
  | nil => rfl
  | cons root roots ih =>
    rw [List.foldl_cons, List.foldl_cons, visit_onto]
    exact ih (search.visit root).val

theorem ofSheet_onto (sheet : Sheet) : Traversal.ofSheet sheet = (ofSheet sheet).onto [] :=
  foldl_visit_onto (start sheet) sheet.addresses

end Search

/-- The analysis of a sheet is the one that the recursive search gives, with the
same order of completion. -/
theorem Sheet.analyze_eq_search (sheet : Sheet) :
    sheet.analyze =
      (sheet.mapAddress fun address cell =>
          { cell with analysis := (Search.ofSheet sheet).analysis? address },
        (Search.ofSheet sheet).order.toList) := by
  rw [analyze, Search.ofSheet_onto]
  rfl

end PostfixSheet
