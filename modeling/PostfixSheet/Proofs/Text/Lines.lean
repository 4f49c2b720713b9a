import PostfixSheet.Text.Lines

/-! The lines of a text. A text is a line feed after line after line, and then a rest
without a line feed, so facts about its lines are proved by induction on the lines.
Ending every line with a line feed again gives the text back, but for the carriage
returns of the line endings, and closes a last line that the text leaves open. -/
namespace PostfixSheet.Text

variable {separator char : Char} {text line piece before after : List Char}
  {pieces rows : List (List Char)}

/-- The text without the carriage returns that stand right before a line feed. -/
def dropReturns : List Char → List Char
  | '\r' :: '\n' :: text => '\n' :: dropReturns text
  | char :: text => char :: dropReturns text
  | [] => []

/-- The line feed that is lacking at the end of a text that is not empty. -/
def missingFeed (text : List Char) : List Char :=
  if text = [] ∨ text.getLast? = some '\n' then [] else ['\n']

/-- A text is a piece without the separator, or such a piece and the separator in front
of a text. -/
@[elab_as_elim]
theorem piece_induction (separator : Char) {motive : List Char → Prop} (text : List Char)
    (last : ∀ piece, separator ∉ piece → motive piece)
    (piece : ∀ piece rest, separator ∉ piece → motive rest → motive (piece ++ separator :: rest)) :
    motive text := by
  -- The characters of the first piece are put aside until the separator is met.
  suffices started : ∀ text first, separator ∉ first → motive (first ++ text) from
    started text [] List.not_mem_nil
  intro text
  induction text with
  | nil =>
    intro first whole
    rw [List.append_nil]
    exact last first whole
  | cons char text ih =>
    intro first whole
    by_cases met : char = separator
    · subst met
      exact piece first text whole (ih [] List.not_mem_nil)
    · have longer : separator ∉ first ++ [char] := by
        simp only [List.mem_append, List.mem_singleton, not_or]
        exact ⟨whole, Ne.symm met⟩
      have rejoined := ih (first ++ [char]) longer
      rwa [List.append_assoc, List.singleton_append] at rejoined

/-- The pieces of a text are made of its characters other than the separator. -/
theorem mem_of_mem_piece (listed : piece ∈ text.splitOn separator) (member : char ∈ piece) :
    char ≠ separator ∧ char ∈ text := by
  induction text using piece_induction separator with
  | last whole apart =>
    rw [List.splitOn_eq_singleton apart] at listed
    obtain rfl := List.mem_singleton.mp listed
    exact ⟨ne_of_mem_of_not_mem member apart, member⟩
  | piece first rest apart ih =>
    rw [List.splitOn_append_cons_self_of_not_mem apart] at listed
    rcases List.mem_cons.mp listed with rfl | behind
    · exact ⟨ne_of_mem_of_not_mem member apart, List.mem_append_left _ member⟩
    · obtain ⟨other, inside⟩ := ih behind
      exact ⟨other, List.mem_append_right _ (List.mem_cons_of_mem _ inside)⟩

/-- Whatever is put in at a place without the separator comes to stand in one piece, between
what is next to the place on either side. -/
theorem exists_piece_around (separator : Char) (before after : List Char) :
    ∃ front left right back, left <:+ before ∧ separator ∉ left ∧
      right <+: after ∧ separator ∉ right ∧ ∀ middle, separator ∉ middle →
        (before ++ middle ++ after).splitOn separator =
          front ++ (left ++ middle ++ right) :: back := by
  induction before using piece_induction separator with
  | piece first rest apart ih =>
    obtain ⟨front, left, right, back, isSuffix, outLeft, isPrefix, outRight, split⟩ := ih
    refine ⟨first :: front, left, right, back, ?_, outLeft, isPrefix, outRight, ?_⟩
    · exact isSuffix.trans ((List.suffix_cons _ _).trans (List.suffix_append _ _))
    · intro middle outMiddle
      rw [List.append_assoc, List.append_assoc, List.cons_append,
        List.splitOn_append_cons_self_of_not_mem apart, ← List.append_assoc, split middle outMiddle,
        List.cons_append]
  | last left outLeft =>
    induction after using piece_induction separator with
    | last right outRight =>
      refine ⟨[], left, right, [], List.suffix_rfl, outLeft, List.prefix_rfl, outRight, ?_⟩
      intro middle outMiddle
      exact List.splitOn_eq_singleton (by simp [outLeft, outMiddle, outRight])
    | piece right rest outRight _ =>
      refine ⟨[], left, right, rest.splitOn separator, List.suffix_rfl, outLeft,
        List.prefix_append _ _, outRight, ?_⟩
      intro middle outMiddle
      rw [← List.append_assoc, List.splitOn_append_cons_self_of_not_mem
        (by simp [outLeft, outMiddle, outRight]), List.nil_append]

theorem mem_of_mem_intercalate (member : char ∈ [separator].intercalate pieces) :
    char = separator ∨ ∃ piece ∈ pieces, char ∈ piece := by
  induction pieces with
  | nil => contradiction
  | cons first rest ih =>
    cases rest with
    | nil =>
      rw [List.intercalate_singleton] at member
      exact .inr ⟨first, List.mem_cons_self, member⟩
    | cons second rest =>
      rw [List.intercalate_cons_cons, List.mem_append, List.mem_append, List.mem_singleton]
        at member
      rcases member with (inFirst | between) | behind
      · exact .inr ⟨first, List.mem_cons_self, inFirst⟩
      · exact .inl between
      · rcases ih behind with between | ⟨piece, listed, inPiece⟩
        · exact .inl between
        · exact .inr ⟨piece, List.mem_cons_of_mem _ listed, inPiece⟩

theorem lines_of_not_mem (unbroken : '\n' ∉ line) :
    lines line = if line = [] then [] else [line] := by
  rw [lines, List.splitOn_eq_singleton unbroken]
  cases line with
  | nil => rfl
  | cons first rest => rfl

theorem lines_append_cons (unbroken : '\n' ∉ line) :
    lines (line ++ '\n' :: text) = dropReturn line :: lines text := by
  simp only [lines, List.splitOn_append_cons_self_of_not_mem unbroken]
  rw [List.dropLast_cons_of_ne_nil (List.splitOn_ne_nil '\n' text), List.map_cons,
    List.getLast?_cons_of_ne_nil (List.splitOn_ne_nil '\n' text), List.cons_append]

theorem dropReturn_of_not_return (clean : line.getLast? ≠ some '\r') : dropReturn line = line :=
  if_neg clean

/-- Lines that end with a line feed are read back. -/
theorem lines_flatMap (unbroken : ∀ line ∈ rows, '\n' ∉ line)
    (clean : ∀ line ∈ rows, line.getLast? ≠ some '\r') :
    lines (rows.flatMap (· ++ ['\n'])) = rows := by
  induction rows with
  | nil => rfl
  | cons first rest ih =>
    have behind := ih (fun line listed => unbroken line (List.mem_cons_of_mem _ listed))
      fun line listed => clean line (List.mem_cons_of_mem _ listed)
    rw [List.flatMap_cons, List.append_assoc, List.singleton_append,
      lines_append_cons (unbroken first List.mem_cons_self), behind,
      dropReturn_of_not_return (clean first List.mem_cons_self)]

theorem dropReturns_of_not_mem (unbroken : '\n' ∉ line) : dropReturns line = line := by
  induction line using dropReturns.induct with
  | case1 rest ih => simp at unbroken
  | case2 char rest apart ih =>
    rw [dropReturns, ih fun member => unbroken (List.mem_cons_of_mem _ member)]
    exact apart
  | case3 => rfl

theorem mem_of_mem_dropReturn (member : char ∈ dropReturn line) : char ∈ line := by
  unfold dropReturn at member
  split at member
  · exact List.dropLast_subset _ member
  · exact member

theorem dropReturn_cons (char : Char) (present : line ≠ []) :
    dropReturn (char :: line) = char :: dropReturn line := by
  unfold dropReturn
  rw [List.getLast?_cons_of_ne_nil present, List.dropLast_cons_of_ne_nil present]
  split
  · rfl
  · rfl

theorem dropReturns_append_cons (unbroken : '\n' ∉ line) :
    dropReturns (line ++ '\n' :: text) = dropReturn line ++ '\n' :: dropReturns text := by
  induction line with
  | nil => rfl
  | cons first rest ih =>
    have behind := ih fun member => unbroken (List.mem_cons_of_mem _ member)
    cases rest with
    | nil =>
      by_cases isReturn : first = '\r'
      · subst isReturn
        rfl
      · rw [List.singleton_append, dropReturns, dropReturn_of_not_return (by simpa using isReturn)]
        · rfl
        · exact fun _ same => absurd same isReturn
    | cons second rest =>
      rw [dropReturn_cons _ (List.cons_ne_nil _ _), List.cons_append, dropReturns, behind,
        List.cons_append]
      -- The line goes on, so no line feed follows its first character.
      rintro others - same
      rw [List.cons_append, List.cons.injEq] at same
      exact unbroken (same.1 ▸ List.mem_cons_of_mem _ List.mem_cons_self)

theorem missingFeed_append_cons (line text : List Char) :
    missingFeed (line ++ '\n' :: text) = missingFeed text := by
  cases text with
  | nil => simp [missingFeed]
  | cons first rest => simp [missingFeed, List.getLast?_append]

theorem missingFeed_append (nonempty : after ≠ []) :
    missingFeed (before ++ after) = missingFeed after := by
  simp [missingFeed, List.getLast?_append, nonempty]

theorem missingFeed_of_not_mem (unbroken : '\n' ∉ line) :
    missingFeed line = if line = [] then [] else ['\n'] := by
  have lacking : line.getLast? ≠ some '\n' := fun last => unbroken (List.mem_of_getLast? last)
  simp only [missingFeed, lacking, or_false]

/-- Ending every line with a line feed gives the text back, but for the carriage returns
of its line endings and the line feed that it lacks. -/
theorem flatMap_lines (text : List Char) :
    (lines text).flatMap (· ++ ['\n']) = dropReturns text ++ missingFeed text := by
  induction text using piece_induction '\n' with
  | last line unbroken =>
    rw [lines_of_not_mem unbroken, dropReturns_of_not_mem unbroken, missingFeed_of_not_mem unbroken]
    split
    · rename_i empty
      rw [empty]
      rfl
    · rw [List.flatMap_singleton]
  | piece line rest unbroken ih =>
    rw [lines_append_cons unbroken, dropReturns_append_cons unbroken, missingFeed_append_cons,
      List.flatMap_cons, ih, List.append_assoc, List.append_assoc, List.singleton_append,
      List.cons_append]

/-- What is read from the lines, in a way that overlooks a carriage return at the end, is
what is read from the pieces between line feeds, but for a last piece that is empty. -/
theorem map_lines {α : Type} {read : List Char → α}
    (overlooks : ∀ line, read (dropReturn line) = read line) (text : List Char) :
    (lines text).map read =
      if missingFeed text = [] then ((text.splitOn '\n').map read).dropLast
      else (text.splitOn '\n').map read := by
  induction text using piece_induction '\n' with
  | last line unbroken =>
    rw [lines_of_not_mem unbroken, missingFeed_of_not_mem unbroken,
      List.splitOn_eq_singleton unbroken]
    by_cases empty : line = []
    · simp [empty]
    · simp [empty]
  | piece line rest unbroken ih =>
    have present : (rest.splitOn '\n').map read ≠ [] :=
      mt List.map_eq_nil_iff.mp (List.splitOn_ne_nil '\n' rest)
    rw [lines_append_cons unbroken, missingFeed_append_cons,
      List.splitOn_append_cons_self_of_not_mem unbroken, List.map_cons, List.map_cons, overlooks,
      ih, List.dropLast_cons_of_ne_nil present]
    split
    · rfl
    · rfl

theorem feed_not_mem_of_mem_lines (listed : line ∈ lines text) : '\n' ∉ line := by
  induction text using piece_induction '\n' with
  | last whole unbroken =>
    rw [lines_of_not_mem unbroken] at listed
    split at listed
    · contradiction
    · rwa [List.mem_singleton.mp listed]
  | piece first rest unbroken ih =>
    rw [lines_append_cons unbroken] at listed
    rcases List.mem_cons.mp listed with rfl | behind
    · exact fun member => unbroken (mem_of_mem_dropReturn member)
    · exact ih behind

end PostfixSheet.Text
