import PostfixSheet.Proofs.Analysis.Completion

/-! The rounds of a walk. The loop goes on for as long as a path is left, and each round
reads one token of the top frame or takes the frame off the path. Walks start from the
roots one after the other. Nothing here says beforehand how often the loop goes round:
the rounds are listed as they come, by the states that they find, and the list turns out
to be finite. A round that reads a token may put another cell on the path, with any
number of tokens, but every cell is put there once; so there is one round for each token
that is read and one for each cell. -/
namespace PostfixSheet
open scoped List

/-- The number of tokens in all expressions of a sheet. -/
def Sheet.tokenCount (sheet : Sheet) : Nat :=
  sheet.total fun cell => (Token.ofExpression cell.expression).length

namespace Traversal

variable {sheet : Sheet} {traversal last : Traversal} {top frame : Frame} {below : List Frame}
  {root : Address} {roots : List Address} {heads : List Traversal} {tokens : List Token}

/-- One round of the loop after the other, until no path is left. A round is listed by
the state that it finds. -/
inductive Rounds : Traversal → List Traversal → Traversal → Prop
  | rest {traversal : Traversal} (rests : traversal.stack = []) : Rounds traversal [] traversal
  | round {traversal last : Traversal} {heads : List Traversal} (busy : traversal.stack ≠ [])
      (later : Rounds traversal.step heads last) : Rounds traversal (traversal :: heads) last

/-- A walk from one root, with the states that its rounds find. -/
structure Visit where
  root : Address
  heads : List Traversal

/-- Walks from the roots one after the other, each unless the root was reached before. -/
inductive Tour : Traversal → List Address → List Visit → Traversal → Prop
  | done {traversal : Traversal} : Tour traversal [] [] traversal
  | skip {traversal last : Traversal} {root : Address} {roots : List Address}
      {visits : List Visit} (reached : traversal.Visited root)
      (later : Tour traversal roots visits last) : Tour traversal (root :: roots) visits last
  | visit {traversal middle last : Traversal} {root : Address} {roots : List Address}
      {tokens : List Token} {heads : List Traversal} {visits : List Visit}
      (fresh : traversal.progress.get? root = some (.unvisited tokens))
      (rounds : Rounds (traversal.enter root tokens) heads middle)
      (later : Tour middle roots visits last) :
      Tour traversal (root :: roots) (⟨root, heads⟩ :: visits) last

/-- The round reads a token, the next one of the top frame. The frame stays, without this
token or, if the token ends the reading, without any; at most one cell is entered above it. -/
def Consumes (traversal : Traversal) (token : Token) : Prop :=
  ∃ top below tokens above frame,
    traversal.stack = top :: below ∧ top.tokens = token :: tokens ∧
    traversal.step.stack = above ++ frame :: below ∧ above.length ≤ 1 ∧
    frame.cell = top.cell ∧ (frame.tokens = tokens ∨ frame.tokens = []) ∧
    traversal.step.order = traversal.order

/-- The round takes the top frame, which has no token left, off the path and finishes
its cell. -/
def Pops (traversal : Traversal) : Prop :=
  ∃ top below, traversal.stack = top :: below ∧ top.tokens = [] ∧
    traversal.step.stack = below ∧ traversal.step.order = traversal.order.push top.cell

def nextToken? (traversal : Traversal) : Option Token :=
  traversal.stack.head?.bind (·.tokens.head?)

/-- The cell that the next round puts on the path. -/
def nextEntered? (traversal : Traversal) : Option Address :=
  if traversal.stack.length < traversal.step.stack.length then
    traversal.step.stack.head?.map Frame.cell
  else none

def headsOf (visits : List Visit) : List Traversal := visits.flatMap Visit.heads

def consumedBy (visits : List Visit) : List Token := (headsOf visits).filterMap nextToken?

/-- The cells that are put on the path, first of each walk its root. -/
def enteredBy (visits : List Visit) : List Address :=
  visits.flatMap fun visit => visit.root :: visit.heads.filterMap nextEntered?

/-- The cells that were entered so far: those on the path and those finished. -/
def reached (traversal : Traversal) : List Address :=
  traversal.stack.map Frame.cell ++ traversal.order.toList

/-- What the reading of a token comes to: the frame passes over it, keeps a fault, takes in
a finished cell, closes a cycle, or waits for a cell that is entered above it. -/
inductive Reads (traversal : Traversal) (frame : Frame) (below : List Frame) :
    Token → Traversal → Prop
  | pass (token : Token) : Reads traversal frame below token (traversal.proceed frame below)
  | note (token : Token) (fault : Fault) (plain : ∀ target, fault ≠ .cycle target) :
      Reads traversal frame below token (traversal.proceed (frame.note fault) below)
  | absorb {text : String} {target : Address} {done : Analysis}
      (located : traversal.progress.locate? text = some (target, .finished done)) :
      Reads traversal frame below (.reference text)
        (traversal.proceed (frame.absorb target done) below)
  | closeCycle {text : String} {target : Address}
      (located : traversal.progress.locate? text = some (target, .active))
      (other : target ≠ frame.cell) :
      Reads traversal frame below (.reference text)
        (traversal.proceed (frame.closeCycle target) below)
  | descend {text : String} {target : Address} {tokens : List Token}
      (located : traversal.progress.locate? text = some (target, .unvisited tokens)) :
      Reads traversal frame below (.reference text)
        ((traversal.proceed { frame with awaiting := some target } below).enter target tokens)

theorem reads_follow (traversal : Traversal) (frame : Frame) (below : List Frame) (text : String) :
    Reads traversal frame below (.reference text) (traversal.follow frame below text) := by
  unfold follow
  split
  · exact .note _ _ nofun
  · split
    · exact .note _ _ nofun
    · rename_i other
      split
      · rename_i located
        exact .closeCycle located other
      · rename_i located
        exact .absorb located
      · rename_i located
        exact .descend located

theorem reads_read (traversal : Traversal) (frame : Frame) (below : List Frame) (token : Token) :
    Reads traversal frame below token (traversal.read frame below token) := by
  cases token with
  | number value => exact .pass _
  | operator kind => exact .pass _
  | invalid text => exact .note _ _ nofun
  | reference text => exact reads_follow traversal frame below text

/-- A round finishes the top cell if it has no token left, and reads a token of it if it has. -/
theorem step_cases (path : traversal.stack = top :: below) :
    (top.tokens = [] ∧ traversal.step = traversal.finish (top.resume traversal.analysis?) below) ∨
      ∃ token tokens, top.tokens = token :: tokens ∧
        Reads traversal { top.resume traversal.analysis? with tokens } below token
          traversal.step := by
  have left := Frame.tokens_resume traversal.analysis? top
  unfold step
  rw [path]
  dsimp only
  split
  · rename_i spent
    exact .inl ⟨left.symm.trans spent, rfl⟩
  · rename_i token tokens unread
    exact .inr ⟨token, tokens, left.symm.trans unread, reads_read ..⟩

theorem nextToken?_of_path (path : traversal.stack = top :: below) :
    traversal.nextToken? = top.tokens.head? := by
  rw [nextToken?, path, List.head?_cons, Option.bind_some]

theorem consumes_or_pops (busy : traversal.stack ≠ []) :
    (∃ token, traversal.nextToken? = some token ∧ traversal.Consumes token) ∨
      traversal.nextToken? = none ∧ traversal.Pops := by
  obtain ⟨top, below, path⟩ := List.exists_cons_of_ne_nil busy
  have same := Frame.cell_resume traversal.analysis? top
  rw [nextToken?_of_path path]
  rcases step_cases path with ⟨spent, finished⟩ | ⟨token, tokens, unread, read⟩
  · refine .inr ⟨by rw [spent, List.head?_nil], top, below, path, spent, ?_, ?_⟩
    · rw [finished, finish]
    · rw [finished, finish, same]
  · refine .inl ⟨token, by rw [unread, List.head?_cons], top, below, tokens, ?_⟩
    generalize traversal.step = after at read ⊢
    cases read with
    | pass => exact ⟨[], _, path, unread, rfl, Nat.zero_le _, same, .inl rfl, rfl⟩
    | note => exact ⟨[], _, path, unread, rfl, Nat.zero_le _, same, .inl rfl, rfl⟩
    | absorb => exact ⟨[], _, path, unread, rfl, Nat.zero_le _, same, .inl rfl, rfl⟩
    | closeCycle => exact ⟨[], _, path, unread, rfl, Nat.zero_le _, same, .inr rfl, rfl⟩
    | descend => exact ⟨[_], _, path, unread, rfl, Nat.le_refl _, same, .inl rfl, rfl⟩

theorem size_order_step (busy : traversal.stack ≠ []) :
    traversal.order.size + 1 =
      traversal.nextToken?.toList.length + traversal.step.order.size := by
  rcases consumes_or_pops busy with
    ⟨token, reads, _, _, _, _, _, _, _, _, _, _, _, same⟩ | ⟨noNext, _, _, _, _, _, more⟩
  · rw [reads, same]
    exact Nat.add_comm ..
  · rw [noNext, more, Array.size_push]
    exact (Nat.zero_add _).symm

/-- A round reaches the cell that it enters and no other. -/
theorem perm_reached_step (busy : traversal.stack ≠ []) :
    traversal.step.reached ~ traversal.nextEntered?.toList ++ traversal.reached := by
  obtain ⟨top, below, path⟩ := List.exists_cons_of_ne_nil busy
  have same := Frame.cell_resume traversal.analysis? top
  have before : traversal.reached =
      top.cell :: (below.map Frame.cell ++ traversal.order.toList) := by
    rw [reached, path, List.map_cons, List.cons_append]
  rw [nextEntered?, before, path, List.length_cons]
  rcases step_cases path with ⟨-, finished⟩ | ⟨token, tokens, -, read⟩
  · have lower : ¬below.length + 1 < below.length := by omega
    simp only [finished, finish, reached, same, if_neg lower, Array.toList_push,
      Option.toList_none, List.nil_append, ← List.append_assoc]
    exact List.perm_append_singleton ..
  · generalize traversal.step = after at read ⊢
    cases read with
    | descend => simp [reached, proceed, enter]
    | _ => simp [reached, proceed, Frame.note, Frame.absorb, Frame.closeCycle]

/-- Entering a cell leaves as much to do: what the cell needs is now up to its frame. -/
theorem work_enter (fresh : traversal.progress.get? root = some (.unvisited tokens)) :
    (traversal.enter root tokens).work = traversal.work := by
  have moved := Table.total_modify Progress.work (fun _ => .active) fresh
  simp only [Progress.work, Nat.add_zero] at moved
  simp only [work, enter, Table.set, List.map_cons, List.sum_cons, Frame.work]
  omega

theorem work_start (sheet : Sheet) : (start sheet).work = sheet.tokenCount + sheet.size := by
  rw [Sheet.tokenCount, ← Table.total_add_one]
  simp only [work, start, List.map_nil, List.sum_nil, Nat.add_zero, Table.total_map]
  rfl

namespace Rounds

theorem rests (rounds : Rounds traversal heads last) : last.stack = [] := by
  induction rounds with
  | rest rests => exact rests
  | round _ _ ih => exact ih

theorem unique {other : List Traversal} {final : Traversal} (rounds : Rounds traversal heads last)
    (again : Rounds traversal other final) : other = heads ∧ final = last := by
  induction rounds generalizing other final with
  | rest rests =>
    cases again with
    | rest => exact ⟨rfl, rfl⟩
    | round busy => exact absurd rests busy
  | round busy _ ih =>
    cases again with
    | rest rests => exact absurd rests busy
    | round _ later =>
      obtain ⟨rfl, rfl⟩ := ih later
      exact ⟨rfl, rfl⟩

/-- What entering gives and every round keeps, every round finds and leaves. -/
theorem invariant {motive : Traversal → Prop} (rounds : Rounds traversal heads last)
    (kept : ∀ traversal, motive traversal → motive traversal.step) (start : motive traversal) :
    (∀ head ∈ heads, motive head) ∧ motive last := by
  induction rounds with
  | rest => exact ⟨nofun, start⟩
  | round _ _ ih =>
    obtain ⟨found, left⟩ := ih (kept _ start)
    exact ⟨List.forall_mem_cons.mpr ⟨start, found⟩, left⟩

theorem busy_of_mem (rounds : Rounds traversal heads last) : ∀ head ∈ heads, head.stack ≠ [] := by
  induction rounds with
  | rest => nofun
  | round busy _ ih => exact List.forall_mem_cons.mpr ⟨busy, ih⟩

theorem perm_reached (rounds : Rounds traversal heads last) :
    last.reached ~ heads.filterMap nextEntered? ++ traversal.reached := by
  simp only [List.filterMap_eq_flatMap_toList]
  induction rounds with
  | rest => exact .refl _
  | @round traversal last heads busy _ ih =>
    rw [List.flatMap_cons]
    calc last.reached
      _ ~ heads.flatMap (·.nextEntered?.toList) ++ traversal.step.reached := ih
      _ ~ heads.flatMap (·.nextEntered?.toList) ++
          (traversal.nextEntered?.toList ++ traversal.reached) :=
        (perm_reached_step busy).append_left _
      _ ~ traversal.nextEntered?.toList ++ heads.flatMap (·.nextEntered?.toList) ++
          traversal.reached := by
        rw [← List.append_assoc]
        exact List.perm_append_comm.append_right _

theorem length_heads (rounds : Rounds traversal heads last) :
    heads.length + traversal.order.size =
      (heads.filterMap nextToken?).length + last.order.size := by
  simp only [List.filterMap_eq_flatMap_toList]
  induction rounds with
  | rest => rfl
  | round busy _ ih =>
    have one := size_order_step busy
    simp only [List.flatMap_cons, List.length_append, List.length_cons]
    omega

theorem length_le_work (rounds : Rounds traversal heads last) :
    heads.length + last.work ≤ traversal.work := by
  induction rounds with
  | rest => exact Nat.le_of_eq (Nat.zero_add _)
  | round busy _ ih =>
    have less := work_step_lt busy
    rw [List.length_cons]
    omega

end Rounds

theorem exists_rounds (traversal : Traversal) : ∃ heads, Rounds traversal heads traversal.run := by
  fun_induction run traversal with
  | case1 traversal rests => exact ⟨[], .rest rests⟩
  | case2 traversal busy ih =>
    obtain ⟨heads, rounds⟩ := ih
    exact ⟨traversal :: heads, .round busy rounds⟩

namespace Tour

variable {visits : List Visit}

theorem unique {other : List Visit} {final : Traversal} (tour : Tour traversal roots visits last)
    (again : Tour traversal roots other final) : other = visits ∧ final = last := by
  induction tour generalizing other final with
  | done =>
    cases again with
    | done => exact ⟨rfl, rfl⟩
  | skip reached _ ih =>
    cases again with
    | skip _ later => exact ih later
    | visit fresh => exact absurd fresh (reached _)
  | visit fresh rounds _ ih =>
    cases again with
    | skip reached => exact absurd fresh (reached _)
    | visit again sameRounds later =>
      obtain rfl := Progress.unvisited.inj (Option.some.inj (fresh.symm.trans again))
      obtain ⟨rfl, rfl⟩ := rounds.unique sameRounds
      obtain ⟨rfl, rfl⟩ := ih later
      exact ⟨rfl, rfl⟩

/-- What every round and every entry from outside a path keep, all rounds find, and the
last one leaves. -/
theorem invariant {motive : Traversal → Prop} (tour : Tour traversal roots visits last)
    (kept : ∀ traversal, motive traversal → motive traversal.step)
    (entered : ∀ traversal root tokens, motive traversal → traversal.stack = [] →
      traversal.progress.get? root = some (.unvisited tokens) →
        motive (traversal.enter root tokens))
    (rests : traversal.stack = []) (start : motive traversal) :
    (∀ head ∈ headsOf visits, motive head) ∧ motive last := by
  induction tour with
  | done => exact ⟨nofun, start⟩
  | skip _ _ ih => exact ih rests start
  | visit fresh rounds _ ih =>
    obtain ⟨here, left⟩ := rounds.invariant kept (entered _ _ _ start rests fresh)
    obtain ⟨behind, final⟩ := ih rounds.rests left
    exact ⟨List.forall_mem_append.mpr ⟨here, behind⟩, final⟩

theorem busy_of_mem (tour : Tour traversal roots visits last) :
    ∀ head ∈ headsOf visits, head.stack ≠ [] := by
  induction tour with
  | done => nofun
  | skip _ _ ih => exact ih
  | visit _ rounds _ ih => exact List.forall_mem_append.mpr ⟨rounds.busy_of_mem, ih⟩

theorem perm_reached (tour : Tour traversal roots visits last) :
    last.reached ~ enteredBy visits ++ traversal.reached := by
  induction tour with
  | done => exact .refl _
  | skip _ _ ih => exact ih
  | @visit traversal middle last root roots tokens heads visits _ rounds _ ih =>
    let entered := heads.filterMap nextEntered?
    calc last.reached
      _ ~ enteredBy visits ++ middle.reached := ih
      _ ~ enteredBy visits ++ (entered ++ root :: traversal.reached) :=
        rounds.perm_reached.append_left _
      _ ~ enteredBy visits ++ (root :: entered ++ traversal.reached) :=
        List.perm_middle.append_left _
      _ ~ root :: entered ++ enteredBy visits ++ traversal.reached := by
        rw [← List.append_assoc]
        exact List.perm_append_comm.append_right _

theorem length_heads (tour : Tour traversal roots visits last) :
    (headsOf visits).length + traversal.order.size =
      (consumedBy visits).length + last.order.size := by
  induction tour with
  | done => rfl
  | skip _ _ ih => exact ih
  | visit _ rounds _ ih =>
    have first := rounds.length_heads
    simp only [consumedBy, headsOf, List.flatMap_cons, List.filterMap_append, List.length_append,
      enter] at first ih ⊢
    omega

theorem length_le_work (tour : Tour traversal roots visits last) :
    (headsOf visits).length + last.work ≤ traversal.work := by
  induction tour with
  | done => exact Nat.le_of_eq (Nat.zero_add _)
  | skip _ _ ih => exact ih
  | visit fresh rounds _ ih =>
    have first := rounds.length_le_work
    rw [work_enter fresh] at first
    simp only [headsOf, List.flatMap_cons, List.length_append] at ih ⊢
    omega

end Tour

theorem visit_of_unvisited (fresh : traversal.progress.get? root = some (.unvisited tokens)) :
    traversal.visit root = (traversal.enter root tokens).run := by
  simp only [visit, fresh]

theorem visit_of_visited (reached : traversal.Visited root) : traversal.visit root = traversal := by
  unfold visit
  split
  · rename_i fresh
    exact absurd fresh (reached _)
  · rfl

theorem exists_tour (traversal : Traversal) (roots : List Address) :
    ∃ visits, Tour traversal roots visits (roots.foldl visit traversal) := by
  induction roots generalizing traversal with
  | nil => exact ⟨[], .done⟩
  | cons root roots ih =>
    obtain ⟨visits, later⟩ := ih (traversal.visit root)
    rw [List.foldl_cons]
    by_cases reached : traversal.Visited root
    · rw [visit_of_visited reached] at later ⊢
      exact ⟨visits, .skip reached later⟩
    · simp only [Visited, ne_eq, not_forall, not_not] at reached
      obtain ⟨tokens, fresh⟩ := reached
      obtain ⟨heads, rounds⟩ := exists_rounds (traversal.enter root tokens)
      rw [visit_of_unvisited fresh] at later ⊢
      exact ⟨⟨root, heads⟩ :: visits, .visit fresh rounds later⟩

theorem exists_tour_ofSheet (sheet : Sheet) :
    ∃ visits, Tour (start sheet) sheet.addresses visits (ofSheet sheet) :=
  exists_tour (start sheet) sheet.addresses

theorem exists_tour_of_first (cells : sheet.addresses = root :: roots)
    (fresh : (start sheet).progress.get? root = some (.unvisited tokens))
    (rounds : Rounds ((start sheet).enter root tokens) heads traversal) :
    ∃ visits last, Tour (start sheet) sheet.addresses (⟨root, heads⟩ :: visits) last := by
  obtain ⟨visits, rest⟩ := exists_tour traversal roots
  rw [cells]
  exact ⟨visits, _, .visit fresh rounds rest⟩

/-- The tour of a sheet starts with no cell entered and ends with all of them finished. -/
theorem Tour.perm_entered {visits : List Visit}
    (tour : Tour (start sheet) sheet.addresses visits (ofSheet sheet)) :
    enteredBy visits ~ sheet.addresses := by
  have all : (ofSheet sheet).reached = sheet.analyze.2 := by
    rw [reached, (resting_ofSheet sheet).rests]
    rfl
  have entered := tour.perm_reached
  rw [all, show (start sheet).reached = [] from rfl, List.append_nil] at entered
  exact entered.symm.trans (Sheet.perm_completion sheet)

theorem size_order_ofSheet (sheet : Sheet) : (ofSheet sheet).order.size = sheet.size := by
  rw [← Array.length_toList, ← Table.length_addresses]
  exact (Sheet.perm_completion sheet).length_eq

/-- The walks over a sheet come to an end, in one way only. Each round reads one token of
the top frame or takes the frame off the path; no cell is put on the path twice, and each
cell is put there. There are as many rounds as there are tokens read and cells, which is
at most as many as there are tokens and cells. -/
theorem tour_ends (sheet : Sheet) :
    ∃ visits, (∀ other last, Tour (start sheet) sheet.addresses other last ↔
        other = visits ∧ last = ofSheet sheet) ∧
      (∀ head ∈ headsOf visits,
        (∃ token, head.nextToken? = some token ∧ head.Consumes token) ∨
          head.nextToken? = none ∧ head.Pops) ∧
      (enteredBy visits).Nodup ∧ (enteredBy visits ~ sheet.addresses) ∧
      (headsOf visits).length = (consumedBy visits).length + sheet.size ∧
      (headsOf visits).length ≤ sheet.tokenCount + sheet.size := by
  obtain ⟨visits, tour⟩ := exists_tour_ofSheet sheet
  have entered := tour.perm_entered
  have rounds := tour.length_heads
  have bound := tour.length_le_work
  rw [size_order_ofSheet, show (start sheet).order.size = 0 from rfl, Nat.add_zero] at rounds
  rw [work_start] at bound
  refine ⟨visits, fun other last => ⟨tour.unique, ?_⟩, ?_, ?_, entered, rounds, ?_⟩
  · rintro ⟨rfl, rfl⟩
    exact tour
  · exact fun head member => consumes_or_pops (tour.busy_of_mem head member)
  · exact entered.nodup_iff.mpr sheet.nodup_addresses
  · omega

/-- A cell that refers to itself beside two that refer to each other: six tokens and three
cells. The first round reads a reference. -/
theorem tour_ends_on_cycles :
    let sheet := Sheet.ofRows [["B1 2 +", "A1 3"], ["A2"]]
    let head := (start sheet).enter ⟨0, 0⟩ (Token.ofExpression "B1 2 +")
    ∃ visits, Tour (start sheet) sheet.addresses visits (ofSheet sheet) ∧
      head ∈ headsOf visits ∧ head.Consumes (.reference "B1") ∧
      (headsOf visits).length = (consumedBy visits).length + 3 ∧ (headsOf visits).length ≤ 9 := by
  intro sheet head
  obtain ⟨visits, unique, each, _, _, rounds, bound⟩ := tour_ends sheet
  have cells : sheet.addresses = ⟨0, 0⟩ :: [⟨1, 0⟩, ⟨0, 1⟩] := by decide +kernel
  have fresh : (start sheet).progress.get? ⟨0, 0⟩ =
      some (.unvisited (Token.ofExpression "B1 2 +")) := by
    decide +kernel
  have first : head ∈ headsOf visits := by
    obtain ⟨heads, later⟩ := exists_rounds head.step
    obtain ⟨others, last, tour⟩ :=
      exists_tour_of_first cells fresh (.round (List.cons_ne_nil _ _) later)
    rw [← ((unique _ _).mp tour).1]
    exact List.mem_cons_self
  have reads : head.nextToken? = some (.reference "B1") := by decide +kernel
  refine ⟨visits, (unique _ _).mpr ⟨rfl, rfl⟩, first, ?_, ?_, ?_⟩
  · rcases each head first with ⟨token, isNext, consumes⟩ | ⟨noneLeft, _⟩
    · obtain rfl := Option.some.inj (isNext.symm.trans reads)
      exact consumes
    · rw [noneLeft] at reads
      contradiction
  · rwa [show sheet.size = 3 from by decide +kernel] at rounds
  · rwa [show sheet.tokenCount = 6 from by decide +kernel,
      show sheet.size = 3 from by decide +kernel] at bound

end Traversal

end PostfixSheet
