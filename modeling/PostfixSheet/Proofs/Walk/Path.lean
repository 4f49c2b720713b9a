import PostfixSheet.Proofs.Walk.Reading
import Mathlib.Data.List.Chain

/-! The path of a walk. A frame is a reading that was interrupted: carried on
from here, it comes to the same end as one reading of the whole cell. What is
known may grow in the meantime, but never by the cell itself or by a cell below
it on the path, since those cells finish later. -/
namespace PostfixSheet
open Relation

variable {sheet : Sheet} {known later : Address → Option Analysis} {below : List Address}

/-- What is known later on: more, but nothing of the cells on the path. -/
structure Later (known later : Address → Option Analysis) (path : List Address) : Prop where
  grows : ∀ address found, known address = some found → later address = some found
  excludes : ∀ address ∈ path, later address = none

/-- The reading of some tokens goes on as the reading of the rest of them. If it is
ended before the rest, this is done by a reference to the path below. -/
structure Continues (sheet : Sheet) (known : Address → Option Analysis) (cell : Address)
    (below : List Address) (tokens : List Token) (analysis : Analysis) (rest : List Token)
    (next : Analysis) : Prop where
  reads : sheet.reading known cell tokens analysis = sheet.reading known cell rest next
  ends : sheet.closing? known cell tokens = sheet.closing? known cell rest ∨
    ∃ target ∈ below, sheet.closing? known cell tokens = some target

namespace Continues

variable {cell target : Address} {tokens rest last : List Token} {text : String}
  {analysis next final done : Analysis}

theorem refl : Continues sheet known cell below tokens analysis tokens analysis :=
  ⟨rfl, .inl rfl⟩

theorem trans (first : Continues sheet known cell below tokens analysis rest next)
    (second : Continues sheet known cell below rest next last final) :
    Continues sheet known cell below tokens analysis last final := by
  refine ⟨first.reads.trans second.reads, ?_⟩
  rcases first.ends with same | back
  · simpa only [same] using second.ends
  · exact .inr back

theorem of_number (value : Binary64) :
    Continues sheet known cell below (.number value :: tokens) analysis tokens analysis :=
  ⟨by rw [Sheet.reading], .inl (Sheet.closing?_cons_of_none rfl)⟩

theorem of_operator (kind : Operator) :
    Continues sheet known cell below (.operator kind :: tokens) analysis tokens analysis :=
  ⟨by rw [Sheet.reading], .inl (Sheet.closing?_cons_of_none rfl)⟩

theorem of_invalid (text : String) :
    Continues sheet known cell below (.invalid text :: tokens) analysis tokens
      (analysis.note (.invalidToken text)) :=
  ⟨by rw [Sheet.reading], .inl (Sheet.closing?_cons_of_none rfl)⟩

theorem of_outside (named : sheet.targetOf? (.reference text) = none) :
    Continues sheet known cell below (.reference text :: tokens) analysis tokens
      (analysis.note (.outOfBounds text)) :=
  ⟨by rw [Sheet.reading, named], .inl (Sheet.closing?_cons_of_none named)⟩

theorem of_itself (named : sheet.targetOf? (.reference text) = some cell) :
    Continues sheet known cell below (.reference text :: tokens) analysis tokens
      (analysis.note .selfReference) := by
  refine ⟨?_, .inl ?_⟩
  · simp only [Sheet.reading, named, if_true]
  · rw [Sheet.closing?_cons_of_some named, if_neg (by simp)]

theorem of_known (named : sheet.targetOf? (.reference text) = some target)
    (other : target ≠ cell) (isKnown : known target = some done) :
    Continues sheet known cell below (.reference text :: tokens) analysis tokens
      (analysis.absorb target done) := by
  refine ⟨?_, .inl ?_⟩
  · simp only [Sheet.reading, named, if_neg other, isKnown]
  · rw [Sheet.closing?_cons_of_some named, if_neg (by simp [isKnown])]

/-- A reference to the path below ends the reading, as its cell is not known. -/
theorem of_back (named : sheet.targetOf? (.reference text) = some target)
    (other : target ≠ cell) (member : target ∈ below) (unknown : known target = none) :
    Continues sheet known cell below (.reference text :: tokens) analysis []
      (analysis.note (.cycle target)) := by
  refine ⟨?_, .inr ⟨target, member, ?_⟩⟩
  · simp only [Sheet.reading, named, if_neg other, unknown]
  · rw [Sheet.closing?_cons_of_some named, if_pos ⟨other, by simp [unknown]⟩]

end Continues

namespace Frame

@[simp] theorem cell_resume (known : Address → Option Analysis) (frame : Frame) :
    (frame.resume known).cell = frame.cell := by
  unfold resume
  split
  · rfl
  · split <;> rfl

@[simp] theorem awaiting_resume (known : Address → Option Analysis) (frame : Frame) :
    (frame.resume known).awaiting = none := by
  unfold resume
  split
  · assumption
  · split <;> rfl

theorem resume_of_free {frame : Frame} (free : frame.awaiting = none) :
    frame.resume known = frame := by
  simp only [resume, free]

theorem analysis_resume {frame : Frame} {child : Address} {found : Analysis}
    (awaits : frame.awaiting = some child) (isKnown : known child = some found) :
    (frame.resume known).analysis = frame.analysis.absorb child found := by
  simp only [resume, awaits, isKnown, absorb]

/-- The frame is the rest of one reading of its cell. -/
structure Follows (sheet : Sheet) (known : Address → Option Analysis) (below : List Address)
    (frame : Frame) : Prop where
  rest : frame.tokens <:+ sheet.tokensAt frame.cell
  carriesOn : ∀ later, Later known later (frame.cell :: below) →
    (∀ child, frame.awaiting = some child → (later child).isSome) →
    Continues sheet later frame.cell below (sheet.tokensAt frame.cell) {} frame.tokens
      (frame.resume later).analysis

theorem follows_start (sheet : Sheet) (known : Address → Option Analysis) (below : List Address)
    (cell : Address) : Follows sheet known below { cell, tokens := sheet.tokensAt cell } :=
  ⟨List.suffix_rfl, fun _ _ _ => .refl⟩

namespace Follows

variable {frame next : Frame}

theorem grow (follows : frame.Follows sheet known below)
    (grows : ∀ address found, known address = some found → later address = some found) :
    frame.Follows sheet later below :=
  ⟨follows.rest, fun _ after awaited => follows.carriesOn _
    ⟨fun _ _ found => after.grows _ _ (grows _ _ found), after.excludes⟩ awaited⟩

theorem resume (follows : frame.Follows sheet known below)
    (returned : ∀ child, frame.awaiting = some child → (known child).isSome) :
    (frame.resume known).Follows sheet known below := by
  refine ⟨by simpa using follows.rest, fun later after _ => ?_⟩
  have awaited : ∀ child, frame.awaiting = some child → (later child).isSome := by
    intro child awaits
    obtain ⟨found, isKnown⟩ := Option.isSome_iff_exists.mp (returned child awaits)
    exact Option.isSome_iff_exists.mpr ⟨found, after.grows _ _ isKnown⟩
  have same : (frame.resume known).analysis = (frame.resume later).analysis := by
    cases awaits : frame.awaiting with
    | none => rw [resume_of_free awaits, resume_of_free awaits]
    | some child =>
      obtain ⟨found, isKnown⟩ := Option.isSome_iff_exists.mp (returned child awaits)
      rw [analysis_resume awaits isKnown, analysis_resume awaits (after.grows _ _ isKnown)]
  rw [resume_of_free (awaiting_resume known frame), cell_resume, tokens_resume, same]
  exact follows.carriesOn later (by simpa using after) awaited

/-- One more piece of the reading, from a frame that awaits nothing. -/
theorem advance (follows : frame.Follows sheet known below) (free : frame.awaiting = none)
    (same : next.cell = frame.cell) (shorter : next.tokens <:+ frame.tokens)
    (piece : ∀ later, Later known later (frame.cell :: below) →
      (∀ child, next.awaiting = some child → (later child).isSome) →
      Continues sheet later frame.cell below frame.tokens frame.analysis next.tokens
        (next.resume later).analysis) :
    next.Follows sheet known below := by
  refine ⟨same ▸ shorter.trans follows.rest, fun later after awaited => ?_⟩
  rw [same] at after ⊢
  have whole := follows.carriesOn later after (by simp [free])
  rw [resume_of_free free] at whole
  exact whole.trans (piece later after awaited)

/-- A piece of the reading after which the frame again awaits nothing. -/
theorem advance_free (follows : frame.Follows sheet known below) (free : frame.awaiting = none)
    (nextFree : next.awaiting = none) (same : next.cell = frame.cell)
    (shorter : next.tokens <:+ frame.tokens)
    (piece : ∀ later, Later known later (frame.cell :: below) →
      Continues sheet later frame.cell below frame.tokens frame.analysis next.tokens
        next.analysis) :
    next.Follows sheet known below := by
  refine follows.advance free same shorter fun later after _ => ?_
  rw [resume_of_free nextFree]
  exact piece later after

end Follows

end Frame

end PostfixSheet
