import PostfixSheet.Proofs.Walk.Rounds

/-! What a walk has on record whenever a round begins. Whatever a frame or a finished cell
has taken in is finished. A cycle is put on record by a cell that refers to a cell below
it on the path; since every cell of the path leads to the cells above it, the two reach
each other, and they are not the same. What is on record stays there, so this holds of
the analyses of a sheet as well. -/
namespace PostfixSheet.Traversal
open Relation

variable {sheet : Sheet} {traversal last head : Traversal} {top frame : Frame}
  {below : List Frame} {known later : Address → Option Analysis} {cell target : Address}
  {analysis done : Analysis} {fault : Fault}

/-- Another cell on a cycle with the cell. -/
def LeadBack (sheet : Sheet) (cell target : Address) : Prop :=
  target ≠ cell ∧ TransGen sheet.Refers cell target ∧ TransGen sheet.Refers target cell

/-- An analysis of a cell that takes in known cells only and names no cycle but one that
there is. -/
structure Grounded (sheet : Sheet) (known : Address → Option Analysis) (cell : Address)
    (analysis : Analysis) : Prop where
  taken : ∀ member ∈ analysis.dependencies, (known member).isSome
  cycles : ∀ target, analysis.fault = some (.cycle target) → LeadBack sheet cell target

theorem analysis?_of_finished
    (finished : traversal.progress.get? cell = some (.finished analysis)) :
    traversal.analysis? cell = some analysis := by
  simp only [analysis?, finished, Option.bind_some, Progress.analysis?]

structure AllGrounded (sheet : Sheet) (traversal : Traversal) : Prop where
  frames : ∀ frame ∈ traversal.stack,
    Grounded sheet traversal.analysis? frame.cell frame.analysis
  results : ∀ cell found, traversal.analysis? cell = some found →
    Grounded sheet traversal.analysis? cell found

namespace Grounded

theorem nothing : Grounded sheet known cell {} where
  taken := fun member inEmpty => absurd inEmpty (AddressSet.not_mem_empty member)
  cycles := nofun

theorem grow (grounded : Grounded sheet known cell analysis)
    (grows : ∀ address found, known address = some found → later address = some found) :
    Grounded sheet later cell analysis where
  taken member inSet := by
    obtain ⟨found, isKnown⟩ := Option.isSome_iff_exists.mp (grounded.taken member inSet)
    rw [grows member found isKnown, Option.isSome_some]
  cycles := grounded.cycles

/-- Of two faults the first one stays on record. -/
theorem note (grounded : Grounded sheet known cell analysis)
    (real : ∀ target, fault = .cycle target → LeadBack sheet cell target) :
    Grounded sheet known cell (analysis.note fault) where
  taken := grounded.taken
  cycles target recorded := by
    cases kept : analysis.fault with
    | none =>
      simp only [Analysis.note, kept] at recorded
      exact real target (Option.some.inj recorded)
    | some first =>
      simp only [Analysis.note, kept] at recorded
      exact grounded.cycles target (kept.trans recorded)

theorem absorb (grounded : Grounded sheet known cell analysis) (isKnown : known target = some done)
    (child : Grounded sheet known target done) :
    Grounded sheet known cell (analysis.absorb target done) := by
  have wider : Grounded sheet known cell
      { analysis with
        dependencies := insert target analysis.dependencies ∪ done.dependencies } := by
    refine ⟨fun member inSet => ?_, grounded.cycles⟩
    rw [AddressSet.mem_union, AddressSet.mem_insert] at inSet
    rcases inSet with (rfl | own) | passed
    · rw [isKnown, Option.isSome_some]
    · exact grounded.taken member own
    · exact child.taken member passed
  unfold Analysis.absorb
  split
  · exact wider.note nofun
  · exact wider

end Grounded

namespace AllGrounded

/-- The frame on top, with the cell that it awaited taken in. -/
theorem resume (grounded : AllGrounded sheet traversal) (path : traversal.stack = top :: below) :
    Grounded sheet traversal.analysis? top.cell (top.resume traversal.analysis?).analysis := by
  have inPath := grounded.frames top (path ▸ List.mem_cons_self)
  unfold Frame.resume
  split
  · exact inPath
  · split
    · rename_i child _ _ done isKnown
      exact inPath.absorb isKnown (grounded.results child done isKnown)
    · exact inPath

/-- The top frame changes without entering or finishing a cell. -/
theorem proceed (grounded : AllGrounded sheet traversal) (path : traversal.stack = top :: below)
    (next : Grounded sheet traversal.analysis? frame.cell frame.analysis) :
    AllGrounded sheet (traversal.proceed frame below) where
  frames := by
    refine List.forall_mem_cons.mpr ⟨next, fun lower member => ?_⟩
    exact grounded.frames lower (path ▸ List.mem_cons_of_mem _ member)
  results := grounded.results

theorem enter (grounded : AllGrounded sheet traversal) {tokens : List Token}
    (fresh : traversal.progress.get? cell = some (.unvisited tokens)) :
    AllGrounded sheet (traversal.enter cell tokens) := by
  have same : (traversal.enter cell tokens).analysis? = traversal.analysis? :=
    analysis?_enter traversal.stack fresh
  refine ⟨?_, ?_⟩
  · rw [same]
    exact List.forall_mem_cons.mpr ⟨.nothing, grounded.frames⟩
  · rw [same]
    exact grounded.results

theorem finish (grounded : AllGrounded sheet traversal) (inv : Invariant sheet traversal)
    (path : traversal.stack = top :: below) (same : frame.cell = top.cell)
    (next : Grounded sheet traversal.analysis? frame.cell frame.analysis) :
    AllGrounded sheet (traversal.finish frame below) := by
  have onPath : frame.cell ∈ traversal.stack.map Frame.cell := by
    rw [path, List.map_cons, same]
    exact List.mem_cons_self
  have grows : ∀ address found, traversal.analysis? address = some found →
      (traversal.finish frame below).analysis? address = some found :=
    inv.grows_finish onPath
  refine ⟨fun lower member => ?_, fun cell found isKnown => ?_⟩
  · exact (grounded.frames lower (path ▸ List.mem_cons_of_mem _ member)).grow grows
  · rw [inv.analysis?_finish onPath] at isKnown
    split at isKnown
    · rename_i here
      obtain rfl := Option.some.inj isKnown
      exact here ▸ next.grow grows
    · exact (grounded.results cell found isKnown).grow grows

/-- A reference to a cell below on the path names a cycle. -/
theorem leadBack (inv : Invariant sheet traversal) (path : traversal.stack = top :: below)
    {text : String} {tokens : List Token} (unread : top.tokens = .reference text :: tokens)
    (located : traversal.progress.locate? text = some (target, .active))
    (other : target ≠ top.cell) : LeadBack sheet top.cell target := by
  have rest := (path ▸ inv.follows).1.rest
  have named : sheet.targetOf? (.reference text) = some target := by
    rw [inv.targetOf?_reference, located]
    rfl
  have refers : sheet.Refers top.cell target :=
    Sheet.refers_iff.mpr ⟨_, rest.subset (unread ▸ List.mem_cons_self), named⟩
  have onPath := (inv.active target).mp (Table.locate?_eq_some_iff.mp located).2
  rw [path, List.map_cons] at onPath
  obtain ⟨lower, member, rfl⟩ := List.mem_map.mp ((List.mem_cons.mp onPath).resolve_left other)
  exact ⟨other, .single refers, leads_of_linked (path ▸ inv.linked) lower member⟩

theorem step (grounded : AllGrounded sheet traversal) (inv : Invariant sheet traversal) :
    AllGrounded sheet traversal.step := by
  cases path : traversal.stack with
  | nil =>
    rw [Traversal.step, path]
    exact grounded
  | cons top below =>
    have same := Frame.cell_resume traversal.analysis? top
    have next := grounded.resume path
    rw [← same] at next
    rcases step_cases path with ⟨-, finished⟩ | ⟨token, tokens, unread, read⟩
    · rw [finished]
      exact grounded.finish inv path same next
    · generalize traversal.step = after at read
      cases read with
      | pass => exact grounded.proceed path next
      | note _ fault plain =>
        exact grounded.proceed path (next.note fun target is => absurd is (plain target))
      | absorb located =>
        have isKnown := analysis?_of_finished (Table.locate?_eq_some_iff.mp located).2
        exact grounded.proceed path (next.absorb isKnown (grounded.results _ _ isKnown))
      | closeCycle located other =>
        refine grounded.proceed path (next.note fun target is => ?_)
        obtain rfl := Fault.cycle.inj is
        rw [same]
        exact leadBack inv path unread located (same ▸ other)
      | descend located =>
        refine AllGrounded.enter ?_ (Table.locate?_eq_some_iff.mp located).2
        exact grounded.proceed path next

end AllGrounded

theorem allGrounded_start (sheet : Sheet) : AllGrounded sheet (start sheet) where
  frames := nofun
  results cell found isKnown := by
    simp only [analysis?, start, Table.get?_map] at isKnown
    cases inSheet : sheet.get? cell <;> simp [inSheet, Progress.analysis?] at isKnown

/-- A state that a round of the walks over the sheet finds. -/
def IsHead (sheet : Sheet) (head : Traversal) : Prop :=
  ∃ visits last, Tour (start sheet) sheet.addresses visits last ∧ head ∈ headsOf visits

/-- What holds of a walk, with all that is on record. -/
structure Sound (sheet : Sheet) (traversal : Traversal) : Prop where
  invariant : Invariant sheet traversal
  grounded : AllGrounded sheet traversal

theorem Sound.step (sound : Sound sheet traversal) : Sound sheet traversal.step :=
  ⟨sound.invariant.step, sound.grounded.step sound.invariant⟩

theorem Sound.enter (sound : Sound sheet traversal) (rests : traversal.stack = [])
    {tokens : List Token} (fresh : traversal.progress.get? cell = some (.unvisited tokens)) :
    Sound sheet (traversal.enter cell tokens) :=
  ⟨Resting.enter ⟨sound.invariant, rests⟩ fresh, sound.grounded.enter fresh⟩

theorem sound_start (sheet : Sheet) : Sound sheet (start sheet) :=
  ⟨(resting_start sheet).invariant, allGrounded_start sheet⟩

theorem Tour.sound {visits : List Visit}
    (tour : Tour (start sheet) sheet.addresses visits last) :
    (∀ head ∈ headsOf visits, Sound sheet head) ∧ Sound sheet last :=
  tour.invariant (motive := Sound sheet) (fun _ => Sound.step)
    (fun _ _ _ sound rests => sound.enter rests) rfl (sound_start sheet)

theorem IsHead.sound (isHead : IsHead sheet head) : Sound sheet head := by
  obtain ⟨visits, last, tour, member⟩ := isHead
  exact tour.sound.1 head member

theorem sound_ofSheet (sheet : Sheet) : Sound sheet (ofSheet sheet) := by
  obtain ⟨visits, tour⟩ := exists_tour_ofSheet sheet
  exact tour.sound.2

end PostfixSheet.Traversal
