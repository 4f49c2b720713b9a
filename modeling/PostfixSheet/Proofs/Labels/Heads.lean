import PostfixSheet.Proofs.Labels.Walk
import PostfixSheet.Proofs.Walk.Records

/-! What a walk that knows cells by their labels finds whenever a round begins. It keeps
marks, results, the path and the order of completion apart, and nothing but its steps ties
them to each other: a mark is set where a cell is entered or finished, and a result and
the next entry of the order where it is finished. Where labels are places, its rounds find
the states that the rounds of the walk over the sheet find. So the four agree at the head
of every round, and whatever is on record takes in finished cells only. -/
namespace PostfixSheet
open Traversal (EnteredFrom Invariant LeadBack Resting Visit headsOf)

variable {sheet : Sheet} {traversal last : Traversal} {heads : List Traversal}
  {visits : List Visit} {address cell : Address} {analysis : Analysis}

namespace LabelledWalk

/-- The state is found by a round on the way from the first one until no path is left. -/
inductive RunFinds (labelled : LabelledSheet) : LabelledWalk → LabelledWalk → Prop
  | here {walk : LabelledWalk} (busy : walk.stack ≠ []) : RunFinds labelled walk walk
  | later {walk head : LabelledWalk} (busy : walk.stack ≠ [])
      (found : RunFinds labelled (walk.step labelled) head) : RunFinds labelled walk head

/-- The state is found by a round of the walk from one of the roots. -/
inductive TourFinds (labelled : LabelledSheet) :
    LabelledWalk → List LabelledCell → LabelledWalk → Prop
  | skip {walk head : LabelledWalk} {root : LabelledCell} {roots : List LabelledCell}
      (marked : walk.marks root.address ≠ none) (later : TourFinds labelled walk roots head) :
      TourFinds labelled walk (root :: roots) head
  | here {walk head : LabelledWalk} {root : LabelledCell} {roots : List LabelledCell}
      (fresh : walk.marks root.address = none) (found : RunFinds labelled (walk.enter root) head) :
      TourFinds labelled walk (root :: roots) head
  | later {walk middle head : LabelledWalk} {root : LabelledCell} {roots : List LabelledCell}
      (fresh : walk.marks root.address = none) (runs : Runs labelled (walk.enter root) middle)
      (found : TourFinds labelled middle roots head) :
      TourFinds labelled walk (root :: roots) head

/-- A state that a round finds on the tour of all cells, row by row. -/
def IsHead (labelled : LabelledSheet) (head : LabelledWalk) : Prop :=
  TourFinds labelled {} labelled.toList head

def Records (walk : LabelledWalk) (cell : Address) (analysis : Analysis) : Prop :=
  (∃ frame ∈ walk.stack, frame.cell = cell ∧ frame.analysis = analysis) ∨
    walk.results cell = some analysis

end LabelledWalk

namespace Traversal

theorem marks_labelled_eq_active_iff :
    traversal.labelled.marks address = some .active ↔
      traversal.progress.get? address = some .active := by
  simp only [labelled]
  cases traversal.progress.get? address with
  | none => simp
  | some progress => cases progress <;> simp [Progress.mark?]

theorem marks_labelled_eq_finished_iff :
    traversal.labelled.marks address = some .finished ↔
      (traversal.labelled.results address).isSome := by
  simp only [labelled, analysis?]
  cases traversal.progress.get? address with
  | none => simp
  | some progress => cases progress <;> simp [Progress.mark?, Progress.analysis?]

theorem runFinds_labelled_iff (inv : Invariant sheet traversal)
    (rounds : Rounds traversal heads last) (found : LabelledWalk) :
    LabelledWalk.RunFinds sheet.labelled traversal.labelled found ↔
      ∃ head ∈ heads, head.labelled = found := by
  induction rounds with
  | rest rests =>
    constructor
    · intro finds
      cases finds with
      | here busy => exact absurd rests busy
      | later busy => exact absurd rests busy
    · rintro ⟨_, ⟨⟩, _⟩
  | round busy _ ih =>
    have behind := ih inv.step
    rw [labelled_step inv] at behind
    simp only [List.mem_cons, exists_eq_or_imp, ← behind]
    constructor
    · intro finds
      cases finds with
      | here => exact .inl rfl
      | later _ finds => exact .inr finds
    · rintro (rfl | finds)
      · exact .here busy
      · exact .later busy finds

theorem runs_labelled_of_rounds (inv : Invariant sheet traversal)
    (rounds : Rounds traversal heads last) :
    LabelledWalk.Runs sheet.labelled traversal.labelled last.labelled := by
  obtain ⟨_, whole⟩ := exists_rounds traversal
  obtain ⟨_, rfl⟩ := whole.unique rounds
  exact runs_labelled inv

theorem headsOf_cons (visit : Visit) (visits : List Visit) :
    headsOf (visit :: visits) = visit.heads ++ headsOf visits := rfl

theorem tourFinds_labelled_iff {roots : List LabelledCell} (resting : Resting sheet traversal)
    (placed : ∀ root ∈ roots, sheet.get? root.address = some root.toCell)
    (tour : Tour traversal (roots.map LabelledCell.address) visits last) (found : LabelledWalk) :
    LabelledWalk.TourFinds sheet.labelled traversal.labelled roots found ↔
      ∃ head ∈ headsOf visits, head.labelled = found := by
  induction roots generalizing traversal visits with
  | nil =>
    cases tour with
    | done =>
      constructor
      · nofun
      · rintro ⟨_, ⟨⟩, _⟩
  | cons root roots ih =>
    have atRoot := placed root List.mem_cons_self
    have others : ∀ other ∈ roots, sheet.get? other.address = some other.toCell :=
      fun other member => placed other (List.mem_cons_of_mem root member)
    cases tour with
    | skip reached later =>
      have marked := marks_labelled_of_visited resting.invariant atRoot reached
      rw [← ih resting others later]
      constructor
      · intro finds
        cases finds with
        | skip _ finds => exact finds
        | here fresh => exact absurd fresh marked
        | later fresh => exact absurd fresh marked
      · exact .skip marked
    | @visit _ _ _ _ _ tokens _ _ fresh rounds later =>
      obtain rfl :=
        (resting.invariant.unread _ tokens fresh).trans (Sheet.tokensAt_of_get? atRoot)
      have unmarked := marks_labelled_of_unvisited fresh
      have entered := resting.enter fresh
      have inside := runFinds_labelled_iff entered rounds found
      have runs := runs_labelled_of_rounds entered rounds
      rw [labelled_enter fresh] at inside runs
      have left := rounds.invariant (motive := Invariant sheet) (fun _ => Invariant.step) entered
      have behind := ih ⟨left.2, rounds.rests⟩ others later
      simp only [headsOf_cons, List.mem_append, or_and_right, exists_or, ← inside, ← behind]
      constructor
      · intro finds
        cases finds with
        | skip marked => exact absurd unmarked marked
        | here _ finds => exact .inl finds
        | later _ again finds =>
          -- The walk from this root ends in one state, the one from which the rest goes on.
          obtain rfl := runs.unique again
          exact .inr finds
      · rintro (finds | finds)
        · exact .here unmarked finds
        · exact .later unmarked runs finds

theorem Sound.grounded_of_records (sound : Sound sheet traversal)
    (recorded : traversal.labelled.Records cell analysis) :
    Grounded sheet traversal.analysis? cell analysis := by
  rcases recorded with ⟨frame, inPath, rfl, rfl⟩ | result
  · exact sound.grounded.frames frame inPath
  · exact sound.grounded.results cell analysis result

end Traversal

namespace LabelledWalk

theorem isHead_labelled_iff (sheet : Sheet) (found : LabelledWalk) :
    IsHead sheet.labelled found ↔
      ∃ head, Traversal.IsHead sheet head ∧ head.labelled = found := by
  have finds : ∀ {visits last}, Traversal.Tour (.start sheet) sheet.addresses visits last →
      (IsHead sheet.labelled found ↔ ∃ head ∈ headsOf visits, head.labelled = found) := by
    intro visits last tour
    rw [← Sheet.map_address_labelled] at tour
    rw [IsHead, ← Traversal.labelled_start sheet]
    exact Traversal.tourFinds_labelled_iff (Traversal.resting_start sheet)
      (fun _ => Sheet.get?_of_mem_labelled) tour found
  constructor
  · intro isHead
    obtain ⟨visits, tour⟩ := Traversal.exists_tour_ofSheet sheet
    obtain ⟨head, member, same⟩ := (finds tour).mp isHead
    exact ⟨head, ⟨visits, _, tour, member⟩, same⟩
  · rintro ⟨head, ⟨visits, last, tour, member⟩, same⟩
    exact (finds tour).mpr ⟨head, member, same⟩

/-- When a round begins, the active cells are those of the path, each once; every frame
but the top one awaits the cell of the frame above it, to which its own cell refers; the
cells marked as finished, the cells with a result and those of the order are the same,
each once; what is on record in a frame or a result takes in finished cells only, and a
cycle on record leads through another cell and back. The cycles on record in the end are
of this kind too. These are the states that the rounds of the walk over the sheet find. -/
theorem head_invariant (sheet : Sheet) :
    (∀ found, IsHead sheet.labelled found ↔
      ∃ head, Traversal.IsHead sheet head ∧ head.labelled = found) ∧
    (∀ head, IsHead sheet.labelled head →
      (∀ address, head.marks address = some .active ↔ address ∈ head.stack.map Frame.cell) ∧
      (head.stack.map Frame.cell).Nodup ∧
      head.stack.IsChain (EnteredFrom sheet) ∧
      (∀ address, head.marks address = some .finished ↔ address ∈ head.order) ∧
      (∀ address, (head.results address).isSome ↔ address ∈ head.order) ∧
      head.order.Nodup ∧
      ∀ cell analysis, head.Records cell analysis →
        (∀ member ∈ analysis.dependencies, head.marks member = some .finished) ∧
        ∀ target, analysis.fault = some (.cycle target) → LeadBack sheet cell target) ∧
    ∀ address cell verdict target, sheet.analyze.1.get? address = some cell →
      cell.analysis = some verdict → verdict.fault = some (.cycle target) →
        LeadBack sheet address target := by
  refine ⟨isHead_labelled_iff sheet, ?_, ?_⟩
  · intro found isHead
    obtain ⟨head, reached, rfl⟩ := (isHead_labelled_iff sheet found).mp isHead
    have sound := reached.sound
    have inv := sound.invariant
    refine ⟨fun address => ?_, inv.distinct, inv.linked, fun address => ?_, inv.finished, inv.once,
      fun cell analysis recorded => ⟨fun member inSet => ?_, ?_⟩⟩
    · rw [Traversal.marks_labelled_eq_active_iff]
      exact inv.active address
    · rw [Traversal.marks_labelled_eq_finished_iff]
      exact inv.finished address
    · rw [Traversal.marks_labelled_eq_finished_iff]
      exact (sound.grounded_of_records recorded).taken member inSet
    · exact (sound.grounded_of_records recorded).cycles
  · intro address cell verdict target analyzed holds
    obtain ⟨same, known, isSame⟩ := Sheet.exists_verdict_of_analyze analyzed
    obtain rfl : verdict = same := Option.some.inj (holds.symm.trans isSame)
    exact ((Traversal.sound_ofSheet sheet).grounded.results address verdict known).cycles target

/-- Two cells that refer to each other. In the second round the one is on the path above
the other, which awaits it; in the fourth it is finished, with the cycle on record. -/
theorem head_invariant_in_cycle :
    let sheet := Sheet.ofRows [["B1 C1 +", "A1 2 *", "7"]]
    (∃ head, IsHead sheet.labelled head ∧ head.stack.map Frame.cell = [⟨1, 0⟩, ⟨0, 0⟩] ∧
      head.stack.IsChain (EnteredFrom sheet) ∧ head.marks ⟨0, 0⟩ = some .active) ∧
    (∃ head, IsHead sheet.labelled head ∧ head.order = [⟨1, 0⟩] ∧
      head.marks ⟨1, 0⟩ = some .finished ∧ (head.results ⟨1, 0⟩).isSome) ∧
    LeadBack sheet ⟨1, 0⟩ ⟨0, 0⟩ := by
  intro sheet
  obtain ⟨same, heads, ends⟩ := head_invariant sheet
  let second := ((Traversal.start sheet).enter ⟨0, 0⟩ (Token.ofExpression "B1 C1 +")).step
  let fourth := second.step.step
  have inTour : Traversal.IsHead sheet second ∧ Traversal.IsHead sheet fourth := by
    have fresh : (Traversal.start sheet).progress.get? ⟨0, 0⟩ =
        some (.unvisited (Token.ofExpression "B1 C1 +")) := by
      decide +kernel
    have cells : sheet.addresses = ⟨0, 0⟩ :: [⟨1, 0⟩, ⟨2, 0⟩] := by decide +kernel
    have busy : second.stack ≠ [] ∧ second.step.stack ≠ [] ∧ fourth.stack ≠ [] := by
      decide +kernel
    obtain ⟨others, later⟩ := Traversal.exists_rounds fourth.step
    have rounds := Traversal.Rounds.round (List.cons_ne_nil _ _)
      (.round busy.1 (.round busy.2.1 (.round busy.2.2 later)))
    obtain ⟨visits, last, tour⟩ := Traversal.exists_tour_of_first cells fresh rounds
    exact ⟨⟨_, _, tour, List.mem_append_left _ (.tail _ (.head _))⟩,
      ⟨_, _, tour, List.mem_append_left _ (.tail _ (.tail _ (.tail _ (.head _))))⟩⟩
  refine ⟨⟨_, (same _).mpr ⟨second, inTour.1, rfl⟩, ?_⟩,
    ⟨_, (same _).mpr ⟨fourth, inTour.2, rfl⟩, ?_⟩, ?_⟩
  · obtain ⟨active, _, linked, _⟩ := heads _ ((same _).mpr ⟨second, inTour.1, rfl⟩)
    have onPath : second.stack.map Frame.cell = [⟨1, 0⟩, ⟨0, 0⟩] := by decide +kernel
    exact ⟨onPath, linked, (active ⟨0, 0⟩).mpr (onPath ▸ by decide)⟩
  · obtain ⟨_, _, _, finished, result, _⟩ := heads _ ((same _).mpr ⟨fourth, inTour.2, rfl⟩)
    have order : fourth.labelled.order = [⟨1, 0⟩] := by decide +kernel
    have listed : ⟨1, 0⟩ ∈ fourth.labelled.order := order ▸ List.mem_cons_self
    exact ⟨order, (finished _).mpr listed, (result _).mpr listed⟩
  · have recorded : ((sheet.analyze.1.get? ⟨1, 0⟩).bind (·.analysis)).bind (·.fault) =
        some (.cycle ⟨0, 0⟩) := by
      decide +kernel
    obtain ⟨verdict, held, cycle⟩ := Option.bind_eq_some_iff.mp recorded
    obtain ⟨cell, analyzed, holds⟩ := Option.bind_eq_some_iff.mp held
    exact ends _ cell verdict _ analyzed holds cycle

end LabelledWalk

end PostfixSheet
