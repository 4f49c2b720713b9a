import PostfixSheet.Proofs.Walk.Invariant

/-! A whole walk. Every token that is read keeps the invariant, so every step
does, and so does the run from a root to the end of its path. No step makes a
cell unvisited again. After a walk from every cell no path is left and no cell
of the sheet is unvisited: all of them are finished. -/
namespace PostfixSheet.Traversal
open Relation

variable {sheet : Sheet} {traversal : Traversal} {top frame : Frame} {below : List Frame}

namespace Invariant

section reading

variable (inv : Invariant sheet traversal) (path : traversal.stack = top :: below)
  (same : frame.cell = top.cell) (free : frame.awaiting = none) {tokens : List Token}
  (follows : frame.Follows sheet traversal.analysis? (below.map Frame.cell))
include inv path same free follows

theorem descend {text : String} (unread : frame.tokens = .reference text :: tokens)
    {target : Address} (named : sheet.targetOf? (.reference text) = some target)
    (other : target ≠ frame.cell) {targetTokens : List Token}
    (fresh : traversal.progress.get? target = some (.unvisited targetTokens)) :
    Invariant sheet ((traversal.proceed { frame with tokens, awaiting := some target }
      below).enter target targetTokens) := by
  have refers : sheet.Refers frame.cell target :=
    Sheet.refers_iff.mpr ⟨_, follows.rest.subset (unread ▸ List.mem_cons_self), named⟩
  have descends : Frame.Follows sheet traversal.analysis? (below.map Frame.cell)
      { frame with tokens, awaiting := some target } := by
    refine follows.advance free rfl (unread ▸ List.suffix_cons ..) fun later _ awaited => ?_
    obtain ⟨done, isKnown⟩ := Option.isSome_iff_exists.mp (awaited target rfl)
    rw [unread, Frame.analysis_resume rfl isKnown]
    exact .of_known named other isKnown
  have linked := path ▸ inv.linked
  refine inv.enter fresh (by simp [path, same]) ?_ (by simpa using refers)
    ⟨descends, (path ▸ inv.follows).2⟩
  simp only [List.isChain_cons, EnteredFrom, same] at linked ⊢
  exact linked

theorem follow {text : String} (unread : frame.tokens = .reference text :: tokens) :
    Invariant sheet (traversal.follow { frame with tokens } below text) := by
  have named := inv.targetOf?_reference text
  have shorter : tokens <:+ frame.tokens := unread ▸ List.suffix_cons _ _
  unfold Traversal.follow
  split
  · rename_i outside
    rw [outside, Option.map_none] at named
    refine inv.proceed path same free (follows.advance_free free free rfl shorter fun _ _ => ?_)
    exact unread ▸ .of_outside named
  · rename_i target progress located
    have found := (Table.locate?_eq_some_iff.mp located).2
    replace named : sheet.targetOf? (.reference text) = some target := by rw [named, located]; rfl
    split
    · rename_i itself
      obtain rfl : target = frame.cell := itself
      refine inv.proceed path same free (follows.advance_free free free rfl shorter fun _ _ => ?_)
      exact unread ▸ .of_itself named
    · rename_i other
      replace other : target ≠ frame.cell := other
      split
      · -- The target is on the path below, so it stays unknown until this cell is finished.
        have member : target ∈ below.map Frame.cell := by
          have onPath := (inv.active target).mp found
          rw [path, List.map_cons, ← same] at onPath
          exact (List.mem_cons.mp onPath).resolve_left other
        refine inv.proceed path same free
          (follows.advance_free free free rfl (List.nil_suffix ..) fun later after => ?_)
        exact unread ▸ .of_back named other member
          (after.excludes target (List.mem_cons_of_mem _ member))
      · rename_i done
        refine inv.proceed path same free
          (follows.advance_free free free rfl shorter fun later after => ?_)
        refine unread ▸ .of_known named other (after.grows target done ?_)
        simp only [analysis?, found, Option.bind_some, Progress.analysis?]
      · exact inv.descend path same free follows unread named other found

theorem read {token : Token} (unread : frame.tokens = token :: tokens) :
    Invariant sheet (traversal.read { frame with tokens } below token) := by
  have shorter : tokens <:+ frame.tokens := unread ▸ List.suffix_cons _ _
  cases token with
  | number value =>
    refine inv.proceed path same free (follows.advance_free free free rfl shorter fun _ _ => ?_)
    exact unread ▸ .of_number value
  | operator kind =>
    refine inv.proceed path same free (follows.advance_free free free rfl shorter fun _ _ => ?_)
    exact unread ▸ .of_operator kind
  | invalid text =>
    refine inv.proceed path same free (follows.advance_free free free rfl shorter fun _ _ => ?_)
    exact unread ▸ .of_invalid text
  | reference text => exact inv.follow path same free follows unread

end reading

/-- The frame on top, with the cell that it awaited taken in, follows its cell. -/
theorem top_follows (inv : Invariant sheet traversal) (path : traversal.stack = top :: below) :
    (top.resume traversal.analysis?).Follows sheet traversal.analysis? (below.map Frame.cell) := by
  refine (path ▸ inv.follows).1.resume fun child awaits => ?_
  exact inv.returned top (by simp [path]) child awaits

theorem step (inv : Invariant sheet traversal) : Invariant sheet traversal.step := by
  unfold Traversal.step
  split
  · exact inv
  · rename_i top below path
    have follows := inv.top_follows path
    have same := Frame.cell_resume traversal.analysis? top
    have free := Frame.awaiting_resume traversal.analysis? top
    dsimp only
    split
    · rename_i read
      exact inv.finish path same free read follows
    · rename_i token tokens unread
      exact inv.read path same free follows unread

end Invariant

theorem run_induction {motive : Traversal → Prop}
    (kept : ∀ traversal, motive traversal → motive traversal.step) (start : motive traversal) :
    motive traversal.run := by
  fun_induction run traversal with
  | case1 traversal done => exact start
  | case2 traversal busy ih => exact ih (kept _ start)

theorem stack_run (traversal : Traversal) : traversal.run.stack = [] := by
  fun_induction run traversal with
  | case1 traversal done => exact done
  | case2 traversal busy ih => exact ih

/-- The cell was entered at some time, or the sheet does not have it. -/
def Visited (traversal : Traversal) (address : Address) : Prop :=
  ∀ tokens, traversal.progress.get? address ≠ some (.unvisited tokens)

theorem Visited.set {address cell : Address} {progress : Progress}
    (visited : traversal.Visited address) (entered : ∀ tokens, progress ≠ .unvisited tokens)
    {stack : List Frame} {order : Array Address} :
    Visited ⟨traversal.progress.set cell progress, stack, order⟩ address := by
  intro tokens found
  rw [Table.get?_set] at found
  split at found
  · obtain ⟨_, _, back⟩ := Option.map_eq_some_iff.mp found
    exact entered tokens back
  · exact visited tokens found

theorem Visited.follow {address : Address} (visited : traversal.Visited address) (frame : Frame)
    (below : List Frame) (text : String) : (traversal.follow frame below text).Visited address := by
  unfold Traversal.follow
  split
  · exact visited
  · split
    · exact visited
    · split
      · exact visited
      · exact visited
      · exact visited.set (by simp)

theorem Visited.step {address : Address} (visited : traversal.Visited address) :
    traversal.step.Visited address := by
  unfold Traversal.step
  split
  · exact visited
  · dsimp only
    split
    · exact visited.set (by simp)
    · rename_i token tokens unread
      cases token with
      | number value => exact visited
      | operator kind => exact visited
      | invalid text => exact visited
      | reference text => exact visited.follow _ _ text

/-- A walk between two roots. -/
structure Resting (sheet : Sheet) (traversal : Traversal) : Prop where
  invariant : Invariant sheet traversal
  rests : traversal.stack = []

theorem resting_start (sheet : Sheet) : Resting sheet (start sheet) := by
  have unknown : ∀ address, (start sheet).analysis? address = none := by
    intro address
    simp only [analysis?, start, Table.get?_map]
    cases sheet.get? address <;> rfl
  refine ⟨⟨?_, ?_, ?_, List.nodup_nil, .nil, ?_, trivial, ?_, List.nodup_nil, ?_⟩, rfl⟩
  · intro address
    simp only [start, Table.get?_map, Option.isSome_map]
  · intro address tokens found
    simp only [start, Table.get?_map, Option.map_eq_some_iff, Progress.unvisited.injEq] at found
    obtain ⟨cell, inSheet, rfl⟩ := found
    exact (Sheet.tokensAt_of_get? inSheet).symm
  · intro address
    simp [start]
  · simp [start]
  · intro address
    rw [unknown]
    simp [start]
  · intro address found isKnown
    rw [unknown] at isKnown
    contradiction

/-- A walk starts at a root that no walk has reached. -/
theorem Resting.enter (resting : Resting sheet traversal) {root : Address} {tokens : List Token}
    (fresh : traversal.progress.get? root = some (.unvisited tokens)) :
    Invariant sheet (traversal.enter root tokens) := by
  have empty : ([] : List Frame).map Frame.cell = traversal.stack.map Frame.cell := by
    rw [resting.rests]
  have alone := resting.invariant.enter fresh empty .nil (by simp) trivial
  simpa only [Traversal.enter, resting.rests] using alone

/-- A walk from one root reaches the root and forgets no cell. -/
theorem Resting.visit (resting : Resting sheet traversal) (root : Address) :
    Resting sheet (traversal.visit root) ∧ (traversal.visit root).Visited root ∧
      ∀ address, traversal.Visited address → (traversal.visit root).Visited address := by
  unfold Traversal.visit
  split
  · rename_i tokens fresh
    have atRoot : (traversal.enter root tokens).Visited root := by
      intro tokens found
      simp [Traversal.enter, Table.get?_set] at found
    refine ⟨⟨run_induction (fun _ => Invariant.step) (resting.enter fresh), stack_run _⟩,
      run_induction (motive := (Visited · root)) (fun _ => Visited.step) atRoot, ?_⟩
    intro address visited
    exact run_induction (motive := (Visited · address)) (fun _ => Visited.step)
      (visited.set (by simp))
  · rename_i known
    exact ⟨resting, known, fun _ => id⟩

theorem Resting.foldl_visit (resting : Resting sheet traversal) (roots : List Address) :
    Resting sheet (roots.foldl Traversal.visit traversal) ∧
      ∀ address, traversal.Visited address ∨ address ∈ roots →
        (roots.foldl Traversal.visit traversal).Visited address := by
  induction roots generalizing traversal with
  | nil => exact ⟨resting, by simp⟩
  | cons root roots ih =>
    obtain ⟨next, atRoot, keeps⟩ := resting.visit root
    obtain ⟨last, visited⟩ := ih next
    refine ⟨last, fun address either => visited address ?_⟩
    rcases either with before | member
    · exact .inl (keeps address before)
    · rcases List.mem_cons.mp member with rfl | later
      · exact .inl atRoot
      · exact .inr later

theorem resting_ofSheet (sheet : Sheet) : Resting sheet (ofSheet sheet) :=
  ((resting_start sheet).foldl_visit sheet.addresses).1

/-- A whole walk finishes every cell of the sheet. -/
theorem isSome_analysis?_ofSheet (sheet : Sheet) (address : Address) :
    ((ofSheet sheet).analysis? address).isSome = (sheet.get? address).isSome := by
  obtain ⟨inv, rests⟩ := resting_ofSheet sheet
  have inside := inv.inside address
  cases progress : (ofSheet sheet).progress.get? address with
  | none =>
    rw [progress] at inside
    simp [analysis?, progress, ← inside]
  | some entry =>
    rw [progress] at inside
    cases entry with
    | finished found =>
      simp only [analysis?, progress, Option.bind_some, Progress.analysis?, ← inside,
        Option.isSome_some]
    | active =>
      have onPath := (inv.active address).mp progress
      simp [rests] at onPath
    | unvisited tokens =>
      have member : address ∈ sheet.addresses := Table.mem_addresses.mpr inside.symm
      exact absurd progress
        (((resting_start sheet).foldl_visit sheet.addresses).2 address (.inr member) tokens)

end PostfixSheet.Traversal
