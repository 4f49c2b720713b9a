import PostfixSheet.Proofs.Evaluation.Settled

/-! One pass of evaluation, cell by cell. A pass over a list is a pass over its
first part and then one over the rest. A listed cell holds what the pass wrote to
it last, which was computed from the values that were there at that moment; a cell
that is not listed holds what it held before. A pass that comes to every cell once
counts the cells that hold an error when it ends. -/
namespace PostfixSheet.Sheet

variable {sheet : Sheet} {address target : Address} {order before after : List Address}
  {value : Value}

/-- The pass over these cells wrote the value to the cell when it came to it for
the last time. -/
def LastWrote (sheet : Sheet) (order : List Address) (target : Address) (value : Value) : Prop :=
  ∃ before after cell, order = before ++ target :: after ∧ target ∉ after ∧
    (sheet.evaluate before).1.get? target = some cell ∧
    value = (sheet.evaluate before).1.compute cell

/-- The number of cells that hold an error. -/
def errorCount (sheet : Sheet) : Nat :=
  sheet.addresses.countP fun address => sheet.valueAt? address = some .error

/-- The count of errors has no influence on the cells. -/
theorem fst_foldl_evaluateAt (sheet : Sheet) (errors : Nat) (order : List Address) :
    (order.foldl evaluateAt (sheet, errors)).1 = (sheet.evaluate order).1 := by
  unfold evaluate
  generalize 0 = other
  induction order generalizing sheet errors other with
  | nil => rfl
  | cons address order ih =>
    rw [List.foldl_cons, List.foldl_cons]
    simp only [evaluateAt]
    split
    · exact ih sheet errors other
    · exact ih _ _ _

theorem fst_evaluate_append (sheet : Sheet) (before after : List Address) :
    (sheet.evaluate (before ++ after)).1 = ((sheet.evaluate before).1.evaluate after).1 := by
  rw [evaluate, List.foldl_append]
  exact fst_foldl_evaluateAt _ _ after

theorem fst_evaluate_singleton_of_outside (outside : sheet.get? address = none) :
    (sheet.evaluate [address]).1 = sheet := by
  simp only [evaluate, List.foldl_cons, List.foldl_nil, evaluateAt, outside]

theorem fst_evaluate_singleton {cell : Cell} (found : sheet.get? address = some cell) :
    (sheet.evaluate [address]).1 = sheet.setValue address (some (sheet.compute cell)) := by
  simp only [evaluate, List.foldl_cons, List.foldl_nil, evaluateAt, found]

theorem isSome_get?_evaluate (sheet : Sheet) (order : List Address) (address : Address) :
    ((sheet.evaluate order).1.get? address).isSome = (sheet.get? address).isSome :=
  isSome_get?_of_bare (bare_evaluate sheet order) address

theorem valueAt?_setValue_self {cell : Cell} (found : sheet.get? address = some cell) :
    (sheet.setValue address (some value)).valueAt? address = some value := by
  simp only [valueAt?, setValue, Table.get?_modify, if_true, found, Option.map_some,
    Option.bind_some]

theorem exists_lastWrote (listed : target ∈ order) (inside : (sheet.get? target).isSome) :
    ∃ value, sheet.LastWrote order target value ∧
      (sheet.evaluate order).1.valueAt? target = some value := by
  induction order using List.reverseRecOn with
  | nil => contradiction
  | append_singleton order last ih =>
    rw [fst_evaluate_append]
    have present : ((sheet.evaluate order).1.get? target).isSome := by
      rwa [isSome_get?_evaluate]
    by_cases here : last = target
    · subst here
      obtain ⟨cell, found⟩ := Option.isSome_iff_exists.mp present
      refine ⟨(sheet.evaluate order).1.compute cell, ?_, ?_⟩
      · exact ⟨order, [], cell, rfl, List.not_mem_nil, found, rfl⟩
      · rw [fst_evaluate_singleton found, valueAt?_setValue_self found]
    · have earlier : target ∈ order := by
        rcases List.mem_append.mp listed with earlier | isLast
        · exact earlier
        · exact absurd (List.mem_singleton.mp isLast).symm here
      obtain ⟨value, ⟨before, after, cell, split, absent, found, computed⟩, held⟩ := ih earlier
      refine ⟨value, ⟨before, after ++ [last], cell, ?_, ?_, found, computed⟩, ?_⟩
      · rw [split, List.append_assoc, List.cons_append]
      · simp [absent, Ne.symm here]
      · cases found : (sheet.evaluate order).1.get? last with
        | none => rwa [fst_evaluate_singleton_of_outside found]
        | some other => rwa [fst_evaluate_singleton found, valueAt?_setValue_of_ne here]

theorem evaluate_concat (sheet : Sheet) (order : List Address) (last : Address) :
    sheet.evaluate (order ++ [last]) = evaluateAt (sheet.evaluate order) last := by
  rw [evaluate, List.foldl_append, List.foldl_cons, List.foldl_nil, evaluate]

/-- A pass that comes to no cell twice counts the listed cells that hold an error
at its end. -/
theorem snd_evaluate (once : order.Nodup) :
    (sheet.evaluate order).2 =
      order.countP fun address => (sheet.evaluate order).1.valueAt? address = some .error := by
  induction order using List.reverseRecOn with
  | nil => rfl
  | append_singleton order last ih =>
    obtain ⟨earlierOnce, _, apart⟩ := List.nodup_append.mp once
    have counted := ih earlierOnce
    rw [evaluate_concat, List.countP_append, List.countP_singleton]
    cases found : (sheet.evaluate order).1.get? last with
    | none =>
      have absent : (sheet.evaluate order).1.valueAt? last = none := by
        rw [valueAt?, found, Option.bind_none]
      simp [evaluateAt, found, absent, ← counted]
    | some cell =>
      -- The value that is written now is not read back at any cell from before.
      have kept : (order.countP fun address =>
          ((sheet.evaluate order).1.setValue last
            (some ((sheet.evaluate order).1.compute cell))).valueAt? address = some .error) =
          (sheet.evaluate order).2 := by
        rw [counted]
        refine List.countP_congr fun address member => ?_
        have other : last ≠ address := (apart address member last List.mem_cons_self).symm
        simp only [valueAt?_setValue_of_ne other]
      simp only [evaluateAt, found, kept, valueAt?_setValue_self found]
      cases (sheet.evaluate order).1.compute cell <;> simp [Value.isError]

theorem snd_evaluate_of_perm (perm : order.Perm sheet.addresses) :
    (sheet.evaluate order).2 = (sheet.evaluate order).1.errorCount := by
  rw [snd_evaluate (perm.nodup_iff.mpr sheet.nodup_addresses), errorCount,
    addresses_of_bare (bare_evaluate sheet order)]
  exact perm.countP_eq _

end PostfixSheet.Sheet
