import PostfixSheet.Proofs.Walk.Path

/-! What holds of a walk between any two of its steps. The active cells are the
cells of the path, each once; every frame below the top awaits the cell of the
frame above it, which it refers to; the finished cells are those of the order,
each once. A finished cell holds what one reading of it gives when the cells
finished before it are known, and a reference that ended that reading leads back
to the cell. Every step keeps all of this, so it holds when no path is left. -/
namespace PostfixSheet.Traversal
open Relation

variable {sheet : Sheet} {traversal : Traversal} {top frame : Frame} {below : List Frame}

/-- The place of a cell in the order of completion; the number of finished cells
for a cell that is not finished. -/
def position (traversal : Traversal) (address : Address) : Nat :=
  traversal.order.toList.idxOf address

/-- The analyses of the cells that were finished before a cell. -/
def earlier? (traversal : Traversal) (cell address : Address) : Option Analysis :=
  if traversal.position address < traversal.position cell then traversal.analysis? address else none

/-- The upper frame was entered from the lower one. -/
def EnteredFrom (sheet : Sheet) (upper lower : Frame) : Prop :=
  lower.awaiting = some upper.cell ∧ sheet.Refers lower.cell upper.cell

/-- Every frame is the rest of one reading of its cell. -/
def AllFollow (sheet : Sheet) (known : Address → Option Analysis) : List Frame → Prop
  | [] => True
  | frame :: below =>
      frame.Follows sheet known (below.map Frame.cell) ∧ AllFollow sheet known below

structure Invariant (sheet : Sheet) (traversal : Traversal) : Prop where
  inside : ∀ address,
    (traversal.progress.get? address).isSome = (sheet.get? address).isSome
  unread : ∀ address tokens, traversal.progress.get? address = some (.unvisited tokens) →
    tokens = sheet.tokensAt address
  active : ∀ address, traversal.progress.get? address = some .active ↔
    address ∈ traversal.stack.map Frame.cell
  distinct : (traversal.stack.map Frame.cell).Nodup
  linked : traversal.stack.IsChain (EnteredFrom sheet)
  returned : ∀ top ∈ traversal.stack.head?, ∀ child, top.awaiting = some child →
    (traversal.analysis? child).isSome
  follows : AllFollow sheet traversal.analysis? traversal.stack
  finished : ∀ address, (traversal.analysis? address).isSome ↔ address ∈ traversal.order.toList
  once : traversal.order.toList.Nodup
  results : ∀ address found, traversal.analysis? address = some found →
    found = sheet.reading (traversal.earlier? address) address (sheet.tokensAt address) {} ∧
      ∀ target, sheet.closing? (traversal.earlier? address) address (sheet.tokensAt address) =
        some target → TransGen sheet.Refers target address

theorem AllFollow.grow {known later : Address → Option Analysis} {frames : List Frame}
    (follow : AllFollow sheet known frames)
    (grows : ∀ address found, known address = some found → later address = some found) :
    AllFollow sheet later frames := by
  induction frames with
  | nil => trivial
  | cons frame below ih => exact ⟨follow.1.grow grows, ih follow.2⟩

theorem leads_of_linked (linked : (top :: below).IsChain (EnteredFrom sheet)) :
    ∀ lower ∈ below, TransGen sheet.Refers lower.cell top.cell := by
  induction below generalizing top with
  | nil => simp
  | cons next rest ih =>
    obtain ⟨entered, tail⟩ := List.isChain_cons_cons.mp linked
    intro lower member
    rcases List.mem_cons.mp member with rfl | deeper
    · exact .single entered.2
    · exact (ih tail lower deeper).tail entered.2

theorem position_finish (traversal : Traversal) (frame : Frame) (below : List Frame)
    (address : Address) : (traversal.finish frame below).position address =
      (traversal.order.toList ++ [frame.cell]).idxOf address := by
  simp only [position, Traversal.finish, Array.toList_push]

theorem position_lt_iff_mem {address : Address} :
    traversal.position address < traversal.order.toList.length ↔
      address ∈ traversal.order.toList :=
  List.idxOf_lt_length_iff

/-- Finishing one more cell moves none of the cells finished so far. -/
theorem position_finish_lt_iff {other address : Address}
    (member : address ∈ traversal.order.toList) :
    (traversal.finish frame below).position other <
        (traversal.finish frame below).position address ↔
      traversal.position other < traversal.position address := by
  have within := position_lt_iff_mem.mpr member
  rw [position_finish, position_finish, List.idxOf_append_of_mem member]
  by_cases known : other ∈ traversal.order.toList
  · rw [List.idxOf_append_of_mem known]
    rfl
  · rw [List.idxOf_append_of_notMem known]
    rw [← position_lt_iff_mem] at known
    simp only [position] at within known ⊢
    omega

theorem position_finish_lt_self_iff {other : Address}
    (fresh : frame.cell ∉ traversal.order.toList) :
    (traversal.finish frame below).position other <
        (traversal.finish frame below).position frame.cell ↔
      other ∈ traversal.order.toList := by
  rw [position_finish, position_finish, List.idxOf_append_of_notMem fresh, List.idxOf_cons_self]
  by_cases known : other ∈ traversal.order.toList
  · simpa only [List.idxOf_append_of_mem known, known, iff_true, Nat.add_zero] using
      List.idxOf_lt_length_of_mem known
  · simp [List.idxOf_append_of_notMem known, known]

theorem analysis?_enter (path : List Frame) {cell : Address} {tokens : List Token}
    (fresh : traversal.progress.get? cell = some (.unvisited tokens)) :
    (Traversal.enter { traversal with stack := path } cell tokens).analysis? =
      traversal.analysis? := by
  funext address
  simp only [analysis?, Traversal.enter, Table.get?_set]
  split
  · rename_i here
    subst here
    simp [fresh, Progress.analysis?]
  · rfl

namespace Invariant

theorem targetOf?_reference (inv : Invariant sheet traversal) (text : String) :
    sheet.targetOf? (.reference text) = (traversal.progress.locate? text).map Prod.fst :=
  (Table.map_fst_locate?_congr inv.inside text).symm

theorem analysis?_eq_none (inv : Invariant sheet traversal) {address : Address}
    (onPath : address ∈ traversal.stack.map Frame.cell) : traversal.analysis? address = none := by
  simp only [analysis?, (inv.active address).mpr onPath, Option.bind_some, Progress.analysis?]

/-- The top frame changes without entering or finishing a cell. -/
theorem proceed (inv : Invariant sheet traversal) (path : traversal.stack = top :: below)
    (same : frame.cell = top.cell) (free : frame.awaiting = none)
    (follows : frame.Follows sheet traversal.analysis? (below.map Frame.cell)) :
    Invariant sheet (traversal.proceed frame below) where
  inside := inv.inside
  unread := inv.unread
  active address := by
    have active := inv.active address
    rw [path] at active
    simpa only [Traversal.proceed, List.map_cons, same] using active
  distinct := by
    have distinct := inv.distinct
    rw [path] at distinct
    simpa only [Traversal.proceed, List.map_cons, same] using distinct
  linked := by
    have linked := inv.linked
    rw [path] at linked
    simp only [List.isChain_cons, EnteredFrom, Traversal.proceed, same] at linked ⊢
    exact linked
  returned := by simp [Traversal.proceed, free]
  follows := by
    have path := path ▸ inv.follows
    exact ⟨follows, path.2⟩
  finished := inv.finished
  once := inv.once
  results := inv.results

/-- A cell that was not reached before is entered from the top of a path that awaits it. -/
theorem enter (inv : Invariant sheet traversal) {path : List Frame} {cell : Address}
    {tokens : List Token} (fresh : traversal.progress.get? cell = some (.unvisited tokens))
    (cells : path.map Frame.cell = traversal.stack.map Frame.cell)
    (linked : path.IsChain (EnteredFrom sheet))
    (awaited : ∀ lower ∈ path.head?, lower.awaiting = some cell ∧ sheet.Refers lower.cell cell)
    (follows : AllFollow sheet traversal.analysis? path) :
    Invariant sheet (Traversal.enter { traversal with stack := path } cell tokens) := by
  have same := analysis?_enter path fresh
  have outside : cell ∉ traversal.stack.map Frame.cell := by
    rw [← inv.active, fresh]
    simp
  refine ⟨?_, ?_, ?_, ?_, ?_, ?_, ?_, ?_, inv.once, ?_⟩
  · intro address
    simp only [Traversal.enter, Table.get?_set, ← inv.inside]
    split <;> simp
  · intro address unread found
    simp only [Traversal.enter, Table.get?_set] at found
    split at found
    · rename_i here
      subst here
      simp [fresh] at found
    · exact inv.unread address unread found
  · intro address
    simp only [Traversal.enter, Table.get?_set, List.map_cons, List.mem_cons, cells]
    split
    · rename_i here
      subst here
      simp [fresh]
    · rename_i other
      simp [inv.active, Ne.symm other]
  · simp only [Traversal.enter, List.map_cons, List.nodup_cons, cells]
    exact ⟨outside, inv.distinct⟩
  · exact List.isChain_cons.mpr ⟨awaited, linked⟩
  · simp [Traversal.enter]
  · rw [same]
    obtain rfl := inv.unread cell tokens fresh
    exact ⟨Frame.follows_start sheet _ _ cell, follows⟩
  · rw [same]
    exact inv.finished
  · unfold earlier?
    rw [same]
    exact inv.results

section finish

variable (inv : Invariant sheet traversal)
  (onPath : frame.cell ∈ traversal.stack.map Frame.cell)
include inv onPath

theorem analysis?_finish (address : Address) :
    (traversal.finish frame below).analysis? address =
      if frame.cell = address then some frame.analysis else traversal.analysis? address := by
  simp only [analysis?, Traversal.finish, Table.get?_set]
  split
  · rename_i here
    simp [← here, (inv.active frame.cell).mpr onPath, Progress.analysis?]
  · rfl

theorem grows_finish (address : Address) (found : Analysis)
    (isKnown : traversal.analysis? address = some found) :
    (traversal.finish frame below).analysis? address = some found := by
  rw [inv.analysis?_finish onPath, if_neg, isKnown]
  rintro rfl
  rw [inv.analysis?_eq_none onPath] at isKnown
  contradiction

theorem not_mem_order : frame.cell ∉ traversal.order.toList := by
  rw [← inv.finished, inv.analysis?_eq_none onPath]
  simp

theorem analysis?_finish_of_mem {address : Address} (member : address ∈ traversal.order.toList) :
    (traversal.finish frame below).analysis? address = traversal.analysis? address := by
  rw [inv.analysis?_finish onPath, if_neg]
  rintro rfl
  exact inv.not_mem_order onPath member

/-- A cell that is finished now came before none of the cells finished so far. -/
theorem earlier?_finish_of_mem {address : Address} (member : address ∈ traversal.order.toList) :
    (traversal.finish frame below).earlier? address = traversal.earlier? address := by
  funext other
  simp only [earlier?, position_finish_lt_iff member]
  by_cases sooner : traversal.position other < traversal.position address
  · rw [if_pos sooner, if_pos sooner]
    exact inv.analysis?_finish_of_mem onPath
      (position_lt_iff_mem.mp (sooner.trans (position_lt_iff_mem.mpr member)))
  · rw [if_neg sooner, if_neg sooner]

theorem earlier?_finish_self :
    (traversal.finish frame below).earlier? frame.cell = traversal.analysis? := by
  funext other
  simp only [earlier?, position_finish_lt_self_iff (inv.not_mem_order onPath)]
  split
  · rename_i member
    exact inv.analysis?_finish_of_mem onPath member
  · rename_i absent
    rw [← inv.finished] at absent
    exact (Option.not_isSome_iff_eq_none.mp absent).symm

end finish

/-- A frame that has no token left holds the result of one reading of its cell. -/
theorem result_of_read (inv : Invariant sheet traversal) (path : traversal.stack = top :: below)
    (same : frame.cell = top.cell) (free : frame.awaiting = none) (read : frame.tokens = [])
    (follows : frame.Follows sheet traversal.analysis? (below.map Frame.cell)) :
    frame.analysis =
        sheet.reading traversal.analysis? frame.cell (sheet.tokensAt frame.cell) {} ∧
      ∀ target, sheet.closing? traversal.analysis? frame.cell (sheet.tokensAt frame.cell) =
        some target → TransGen sheet.Refers target frame.cell := by
  have onPath : ∀ address ∈ frame.cell :: below.map Frame.cell,
      traversal.analysis? address = none := by
    intro address member
    refine inv.analysis?_eq_none ?_
    rwa [path, List.map_cons, ← same]
  have whole := follows.carriesOn traversal.analysis? ⟨fun _ _ => id, onPath⟩ (by simp [free])
  rw [Frame.resume_of_free free, read] at whole
  refine ⟨whole.reads.symm, fun target closed => ?_⟩
  rcases whole.ends with unended | ⟨back, member, closedBack⟩
  · rw [unended] at closed
    simp [Sheet.closing?] at closed
  · obtain rfl : back = target := Option.some.inj (closedBack.symm.trans closed)
    obtain ⟨lower, inPath, rfl⟩ := List.mem_map.mp member
    exact same ▸ leads_of_linked (path ▸ inv.linked) lower inPath

/-- The top cell is finished when no token of it is left. -/
theorem finish (inv : Invariant sheet traversal) (path : traversal.stack = top :: below)
    (same : frame.cell = top.cell) (free : frame.awaiting = none) (read : frame.tokens = [])
    (follows : frame.Follows sheet traversal.analysis? (below.map Frame.cell)) :
    Invariant sheet (traversal.finish frame below) := by
  have cells : traversal.stack.map Frame.cell = frame.cell :: below.map Frame.cell := by
    rw [path, List.map_cons, same]
  have onPath : frame.cell ∈ traversal.stack.map Frame.cell := cells ▸ List.mem_cons_self
  have linked : (top :: below).IsChain (EnteredFrom sheet) := path ▸ inv.linked
  have distinct : frame.cell ∉ below.map Frame.cell ∧ (below.map Frame.cell).Nodup :=
    List.nodup_cons.mp (cells ▸ inv.distinct)
  refine ⟨?_, ?_, ?_, distinct.2, (List.isChain_cons.mp linked).2, ?_, ?_, ?_, ?_, ?_⟩
  · intro address
    simp only [Traversal.finish, Table.get?_set, ← inv.inside]
    split <;> simp
  · intro address unread found
    simp only [Traversal.finish, Table.get?_set] at found
    split at found
    · simp at found
    · exact inv.unread address unread found
  · intro address
    simp only [Traversal.finish, Table.get?_set]
    split
    · rename_i here
      subst here
      simp [distinct.1]
    · rename_i other
      rw [inv.active, cells, List.mem_cons]
      exact or_iff_right (Ne.symm other)
  · intro lower isTop child awaits
    obtain rfl : top.cell = child :=
      Option.some.inj (((List.isChain_cons.mp linked).1 lower isTop).1.symm.trans awaits)
    rw [inv.analysis?_finish onPath, if_pos same, Option.isSome_some]
  · exact AllFollow.grow (path ▸ inv.follows).2 (inv.grows_finish onPath)
  · intro address
    rw [inv.analysis?_finish onPath, Traversal.finish, Array.toList_push, List.mem_append,
      List.mem_singleton, ← inv.finished]
    split
    · rename_i here
      simp [here]
    · rename_i other
      simp [Ne.symm other]
  · rw [Traversal.finish, Array.toList_push]
    refine List.nodup_append.mpr ⟨inv.once, List.pairwise_singleton _ _, ?_⟩
    rintro earlier member _ isLast rfl
    exact inv.not_mem_order onPath (List.mem_singleton.mp isLast ▸ member)
  · intro address found isKnown
    rw [inv.analysis?_finish onPath] at isKnown
    split at isKnown
    · rename_i here
      subst here
      obtain rfl := Option.some.inj isKnown
      rw [inv.earlier?_finish_self onPath]
      exact inv.result_of_read path same free read follows
    · have member := (inv.finished address).mp (by simp [isKnown])
      rw [inv.earlier?_finish_of_mem onPath member]
      exact inv.results address found isKnown

end Invariant

end PostfixSheet.Traversal
