import PostfixSheet.Files.FileSystem
import PostfixSheet.Proofs.Attempts

/-! Reading and writing files. A text that is read is the file's bytes. A write fails
only where its target cannot be opened, and nothing is changed then; else it changes
the target and no other place, and the path leads to what was written: the directories
on the way to the target are not the target. -/
namespace PostfixSheet

namespace Contents

variable {contents : Contents} {text : String}

theorem bytes_of_text? (read : contents.text? = some text) : contents.bytes = text.toUTF8 := by
  unfold text? String.fromUTF8? at read
  split at read
  · obtain rfl := Option.some.inj read
    rfl
  · contradiction

theorem bytes_ofText (text : String) : (ofText text).bytes = text.toUTF8 :=
  ByteArray.empty_append

end Contents

namespace FileSystem

variable {files : FileSystem} {place other start : Place} {entry : Entry} {path text : String}
  {names : List String} {limit : Nat}

theorem readText_eq_ok_iff :
    files.readText limit path = .ok text ↔
      ∃ contents, files.lookup path = .ok (.file contents) ∧ contents.size ≤ limit ∧
        contents.text? = some text := by
  unfold readText
  cases files.lookup path with
  | error fault => simp
  | ok found =>
    cases found with
    | directory => simp
    | file contents =>
      simp only [Except.ok.injEq, Entry.file.injEq, exists_eq_left']
      split
      · rename_i large
        simp [Nat.not_le.mpr large]
      · rename_i small
        cases contents.text? <;> simp [Nat.not_lt.mp small]

/-- The place that a write goes to, if it can be opened. -/
def openTarget (files : FileSystem) (path : String) : Except FileFault Place := do
  let place ← files.locateTarget path
  match files.entry? place with
  | some .directory => .error .isDirectory
  | _ => .ok place

/-- A write whose target can be opened succeeds. -/
theorem writeText_eq (files : FileSystem) (path text : String) :
    files.writeText path text =
      match files.openTarget path with
      | .error fault => .error (.io fault)
      | .ok place => .ok (files.put place (.file (.ofText text))) := by
  unfold writeText openTarget
  cases files.locateTarget path with
  | error fault => rfl
  | ok place =>
    simp only [bind, Except.bind]
    cases files.entry? place with
    | none => rfl
    | some entry => cases entry <;> rfl

theorem locate_of_openTarget (opened : files.openTarget path = .ok place) :
    files.locate path = .ok place ∧ files.entry? place ≠ some .directory := by
  obtain ⟨target, located, free⟩ := exists_of_bind_eq_ok opened
  have same : target = place ∧ files.entry? target ≠ some .directory := by
    split at free
    · contradiction
    · rename_i file
      exact ⟨Except.ok.inj free, file⟩
  obtain ⟨rfl, file⟩ := same
  refine ⟨?_, file⟩
  simp only [locateTarget] at located
  split at located
  · exact located
  · obtain ⟨_, _, checked⟩ := exists_of_bind_eq_ok located
    obtain ⟨_, _, walked⟩ := exists_of_bind_eq_ok checked
    obtain ⟨_, _, ended⟩ := exists_of_bind_eq_ok walked
    cases ended

theorem entry?_put_of_ne (elsewhere : other ≠ place) :
    entry? (files.put place entry) other = files.entry? other := by
  simp only [put, entry?, if_neg elsewhere]

theorem entry?_put_self (below : place ≠ []) : entry? (files.put place entry) place = some entry := by
  simp only [put, entry?, if_neg below, if_pos]

/-- One component further in the files after a change of something else than a directory. -/
theorem enter_put {component : String} (free : files.entry? place ≠ some .directory)
    (entered : files.enter start component = .ok other) :
    (files.put place entry).enter start component = .ok other := by
  have apart : start ≠ place := by
    rintro rfl
    unfold enter at entered
    split at entered
    · contradiction
    · contradiction
    · contradiction
  rw [← entered, enter, entry?_put_of_ne apart]
  rfl

theorem foldlM_enter_put (free : files.entry? place ≠ some .directory)
    (walked : names.foldlM files.enter start = .ok other) :
    names.foldlM (files.put place entry).enter start = .ok other := by
  induction names generalizing start with
  | nil => exact walked
  | cons name names ih =>
    rw [List.foldlM_cons] at walked ⊢
    obtain ⟨next, entered, walked⟩ := exists_of_bind_eq_ok walked
    rw [enter_put free entered]
    exact ih walked

/-- What was written is found at the path that was written to. -/
theorem lookup_put (opened : files.openTarget path = .ok place) :
    (files.put place entry).lookup path = .ok entry := by
  obtain ⟨located, free⟩ := locate_of_openTarget opened
  obtain ⟨_, checked, walked⟩ := exists_of_bind_eq_ok located
  have below : place ≠ [] := by
    rintro rfl
    exact free rfl
  have again : (files.put place entry).locate path = .ok place := by
    rw [locate, checked]
    exact foldlM_enter_put free walked
  rw [lookup, again]
  simp only [bind, Except.bind, entry?_put_self below]
  rfl

end FileSystem

end PostfixSheet
