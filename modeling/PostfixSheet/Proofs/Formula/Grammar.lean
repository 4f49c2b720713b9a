import PostfixSheet.Proofs.Address.Reading
import PostfixSheet.Proofs.Formula.Words
import Mathlib.Data.List.Forall2

/-! The grammar of expressions. An expression is cut into its maximal runs of characters
that are not blank, and every run is one token. Which one is said by the run alone: an
operator is one of four characters, a number is `-?[0-9]+(\.[0-9]+)?`, a reference is
`[A-Za-z]+[0-9]+`, and every other run is invalid. No run is of two kinds. Here this is
said by relations, with no word about how a text is split or a run is recognized; the
splitting and the recognition decide them. -/
namespace PostfixSheet

namespace Text

/-- The maximal runs without a blank, in order. Blanks stand in front of a run, and it
goes on to the next blank or to the end of the text. -/
inductive Runs : List Char → List (List Char) → Prop where
  | blank {gap : List Char} (blank : ∀ char ∈ gap, isBlank char = true) : Runs gap []
  | run {gap word after : List Char} {words : List (List Char)}
      (blank : ∀ char ∈ gap, isBlank char = true) (visible : IsVisible word)
      (starts : StartsBlank after) (rest : Runs after words) :
      Runs (gap ++ word ++ after) (word :: words)

variable {text word after : List Char} {runs : List (List Char)}

theorem Runs.first (visible : IsVisible word) (starts : StartsBlank after)
    (rest : Runs after runs) : Runs (word ++ after) (word :: runs) :=
  @Runs.run [] word after runs nofun visible starts rest

theorem Runs.words_eq (cut : Runs text runs) : words text = runs := by
  induction cut with
  | blank blank => exact words_of_blank blank
  | run blank visible starts _ ih =>
    rw [words_append_of_startsBlank starts, words_blank_append blank, visible.words_eq, ih,
      List.singleton_append]

theorem Runs.cons_blank {char : Char} (blank : isBlank char = true) (cut : Runs text runs) :
    Runs (char :: text) runs := by
  cases cut with
  | blank inGap => exact .blank (List.forall_mem_cons.mpr ⟨blank, inGap⟩)
  | run inGap visible starts rest =>
    exact .run (List.forall_mem_cons.mpr ⟨blank, inGap⟩) visible starts rest

/-- A character that is not blank starts a run or makes the first one longer. -/
theorem Runs.exists_cons {char : Char} (notBlank : isBlank char = false) (cut : Runs text runs) :
    ∃ longer, Runs (char :: text) longer := by
  have alone : IsVisible [char] := ⟨List.cons_ne_nil _ _, by simpa using notBlank⟩
  cases cut with
  | blank inGap =>
    have starts : StartsBlank text := fun first head => inGap first (List.mem_of_mem_head? head)
    exact ⟨_, .first alone starts (.blank inGap)⟩
  | @run gap word after words inGap visible starts rest =>
    cases gap with
    | nil =>
      have longer : IsVisible (char :: word) :=
        ⟨List.cons_ne_nil _ _, List.forall_mem_cons.mpr ⟨notBlank, visible.not_blank⟩⟩
      exact ⟨_, .first longer starts rest⟩
    | cons first others =>
      have separates : StartsBlank (first :: others ++ word ++ after) := by
        rintro head ⟨⟩
        exact inGap first List.mem_cons_self
      exact ⟨_, .first alone separates (.run inGap visible starts rest)⟩

theorem exists_runs (text : List Char) : ∃ runs, Runs text runs := by
  induction text with
  | nil => exact ⟨[], .blank nofun⟩
  | cons first rest ih =>
    obtain ⟨runs, cut⟩ := ih
    cases blank : isBlank first with
    | true => exact ⟨runs, cut.cons_blank blank⟩
    | false => exact cut.exists_cons blank

/-- There is one way to cut a text into its runs, and the words are these runs. -/
theorem runs_iff : Runs text runs ↔ runs = words text := by
  refine ⟨fun cut => cut.words_eq.symm, ?_⟩
  rintro rfl
  obtain ⟨runs, cut⟩ := exists_runs text
  exact cut.words_eq ▸ cut

end Text

namespace Operator

theorem ofChars?_eq_none_iff {word : List Char} :
    ofChars? word = none ↔ ∀ kind : Operator, word ≠ [kind.symbol] := by
  simp only [Option.eq_none_iff_forall_ne_some, ne_eq, ofChars?_eq_some_iff]

end Operator

namespace Literal

/-- The grammar of literals, with what is read off a text: `-?[0-9]+(\.[0-9]+)?`. -/
inductive Spells : List Char → Literal → Prop where
  | plain {text : List Char} {literal : Literal} (digits : Unsigned false text literal) :
      Spells text literal
  | minus {text : List Char} {literal : Literal} (digits : Unsigned true text literal) :
      Spells ('-' :: text) literal

variable {text : List Char} {literal : Literal}

theorem ofText?_eq_some_iff : ofText? text = some literal ↔ Spells text literal := by
  constructor
  · intro read
    unfold ofText? at read
    split at read
    · exact .minus (ofUnsigned?_eq_some_iff.mp read)
    · exact .plain (ofUnsigned?_eq_some_iff.mp read)
  · intro spelled
    cases spelled with
    | plain digits =>
      rw [ofText?_eq_ofUnsigned? digits.sign_not_mem]
      exact ofUnsigned?_eq_some_iff.mpr digits
    | minus digits => exact ofUnsigned?_eq_some_iff.mpr digits

theorem ofText?_eq_none_iff : ofText? text = none ↔ ∀ literal, ¬Spells text literal := by
  simp only [Option.eq_none_iff_forall_ne_some, ne_eq, ofText?_eq_some_iff]

theorem Unsigned.isNumberChar {negative : Bool} (digits : Unsigned negative text literal)
    {char : Char} (member : char ∈ text) : Binary64.isNumberChar char = true := by
  rcases digits.isDigit_or_point member with digit | rfl
  · rw [Binary64.isNumberChar, digit, Bool.true_or, Bool.true_or]
  · rfl

theorem Spells.isNumberChar (spelled : Spells text literal) {char : Char} (member : char ∈ text) :
    Binary64.isNumberChar char = true := by
  cases spelled with
  | plain digits => exact digits.isNumberChar member
  | minus digits =>
    rcases List.mem_cons.mp member with rfl | inside
    · rfl
    · exact digits.isNumberChar inside

end Literal

namespace Address

variable {word letters digits : List Char} {char : Char}

theorem isWritten_eq_false_iff :
    isWritten word = false ↔ ∀ letters digits, ¬Parts word letters digits := by
  simp only [Bool.eq_false_iff, ne_eq, isWritten_iff, not_exists]

theorem Parts.exists_letter (parts : Parts word letters digits) :
    ∃ char ∈ word, char.isAlpha = true := by
  obtain ⟨first, member⟩ := List.exists_mem_of_ne_nil _ parts.ne_nil
  exact ⟨first, parts.joined ▸ List.mem_append_left digits member, parts.isAlpha first member⟩

/-- A written address has nothing but letters and digits, so it is one word. -/
theorem Parts.isVisible (parts : Parts word letters digits) : Text.IsVisible word := by
  obtain ⟨letter, member, _⟩ := parts.exists_letter
  refine ⟨List.ne_nil_of_mem member, fun char inside => ?_⟩
  rw [← parts.joined, List.mem_append] at inside
  rcases inside with letter | digit
  · have code := isAlpha_iff.mp (parts.isAlpha char letter)
    exact Text.isBlank_eq_false_of_code (by omega) (by omega)
  · have code := Text.isDigit_iff.mp ((Text.isNumeral_iff.mp parts.isNumeral).2 char digit)
    exact Text.isBlank_eq_false_of_code (by omega) (by omega)

theorem isNumberChar_eq_false_of_isAlpha (letter : char.isAlpha = true) :
    Binary64.isNumberChar char = false := by
  rw [Bool.eq_false_iff]
  intro other
  simp only [Binary64.isNumberChar, Bool.or_eq_true, beq_iff_eq] at other
  rcases other with (digit | rfl) | rfl
  · rw [isAlpha_eq_false_of_isDigit digit] at letter
    contradiction
  · contradiction
  · contradiction

end Address

namespace Token

/-- The token of a run, by the grammar alone. -/
inductive Reads : List Char → Token → Prop where
  | operator (kind : Operator) : Reads [kind.symbol] (.operator kind)
  | number {word : List Char} {literal : Literal} (spelled : Literal.Spells word literal) :
      Reads word (.number literal.value)
  | reference {word letters digits : List Char} (parts : Address.Parts word letters digits) :
      Reads word (.reference (String.ofList word))
  | invalid {word : List Char} (noOperator : ∀ kind : Operator, word ≠ [kind.symbol])
      (noNumber : ∀ literal, ¬Literal.Spells word literal)
      (noAddress : ∀ letters digits, ¬Address.Parts word letters digits) :
      Reads word (.invalid (String.ofList word))

variable {word letters digits : List Char} {token : Token} {literal : Literal}

theorem ofWord_of_parts (parts : Address.Parts word letters digits) :
    ofWord word = .reference (String.ofList word) := by
  obtain ⟨letter, member, alpha⟩ := parts.exists_letter
  have noOperator : Operator.ofChars? word = none := by
    rw [Operator.ofChars?_eq_none_iff]
    rintro kind rfl
    obtain rfl := List.mem_singleton.mp member
    cases kind <;> contradiction
  have noNumber : Literal.ofText? word = none := by
    rw [Literal.ofText?_eq_none_iff]
    intro literal spelled
    have other := Address.isNumberChar_eq_false_of_isAlpha alpha
    rw [spelled.isNumberChar member] at other
    contradiction
  simp only [ofWord, noOperator, noNumber, parts.isWritten, if_true]

/-- Every run has the token that the grammar gives it, and the grammar gives it no other. -/
theorem ofWord_eq_iff : ofWord word = token ↔ Reads word token := by
  constructor
  · rintro rfl
    unfold ofWord
    split
    · rename_i kind known
      obtain rfl := Operator.ofChars?_eq_some_iff.mp known
      exact .operator kind
    · rename_i noOperator
      split
      · rename_i literal read
        exact .number (Literal.ofText?_eq_some_iff.mp read)
      · rename_i noNumber
        split
        · rename_i written
          obtain ⟨letters, digits, parts⟩ := Address.isWritten_iff.mp written
          exact .reference parts
        · rename_i unwritten
          exact .invalid (Operator.ofChars?_eq_none_iff.mp noOperator)
            (Literal.ofText?_eq_none_iff.mp noNumber)
            (Address.isWritten_eq_false_iff.mp (Bool.eq_false_iff.mpr unwritten))
  · intro reads
    cases reads with
    | operator kind => simp only [ofWord, Operator.ofChars?_eq_some_iff.mpr rfl]
    | number spelled => exact ofWord_of_literal (Literal.ofText?_eq_some_iff.mpr spelled)
    | reference parts => exact ofWord_of_parts parts
    | invalid noOperator noNumber noAddress =>
      simp only [ofWord, Operator.ofChars?_eq_none_iff.mpr noOperator,
        Literal.ofText?_eq_none_iff.mpr noNumber, Address.isWritten_eq_false_iff.mpr noAddress,
        Bool.false_eq_true, if_false]

theorem forall₂_reads_iff {runs : List (List Char)} {tokens : List Token} :
    List.Forall₂ Reads runs tokens ↔ runs.map ofWord = tokens := by
  rw [← List.forall₂_eq_eq_eq, List.forall₂_map_left_iff]
  simp only [ofWord_eq_iff]

/-- The tokens of an expression are its runs, read by the grammar one by one. A text has
one list of runs and a run has one token, so the four kinds exclude each other and leave
nothing out. A literal is always a spelling of a number, so none fails to be read as one.
No run goes across a gap, so the tokens on either side of a gap are those of the sides. -/
theorem ofExpression_eq_iff :
    (∀ (expression : String) (tokens : List Token), ofExpression expression = tokens ↔
      ∃ runs, Text.Runs expression.toList runs ∧ List.Forall₂ Reads runs tokens) ∧
    (∀ text, ∃! runs, Text.Runs text runs) ∧
    (∀ word, ∃! token, Reads word token) ∧
    (∀ word literal, Literal.Spells word literal → Spelling.isNumber word = true) ∧
    ∀ before gap after : String, gap ≠ "" → (∀ char ∈ gap.toList, Text.isBlank char = true) →
      ofExpression (before ++ gap ++ after) = ofExpression before ++ ofExpression after := by
  refine ⟨fun expression tokens => ?_, fun text => ?_, fun word => ?_,
    fun word literal spelled => ?_,
    fun before gap after nonempty blank => ofExpression_append_gap nonempty blank⟩
  · simp only [Text.runs_iff, exists_eq_left, forall₂_reads_iff]
    rfl
  · exact ⟨Text.words text, Text.runs_iff.mpr rfl, fun _ => Text.runs_iff.mp⟩
  · exact ⟨ofWord word, ofWord_eq_iff.mp rfl, fun _ reads => (ofWord_eq_iff.mpr reads).symm⟩
  · exact Literal.isNumber_of_ofText? (Literal.ofText?_eq_some_iff.mpr spelled)

/-- A minus sign in front of a no-break space and one in front of a digit. -/
theorem ofExpression_eq_iff_two_minus_signs :
    Literal.Spells ['-', '1', '.', '5'] ⟨true, 15, 1⟩ ∧
      Spelling.isNumber ['-', '1', '.', '5'] = true ∧
      ofExpression ("b12 -" ++ "\u00a0\t" ++ "-1.5 x7y") =
        ofExpression "b12 -" ++ ofExpression "-1.5 x7y" ∧
      ofExpression "b12 -" = [.reference "b12", .operator .subtract] ∧
      ofExpression "-1.5 x7y" = [.number (Literal.value ⟨true, 15, 1⟩), .invalid "x7y"] := by
  obtain ⟨_, _, _, readable, gaps⟩ := ofExpression_eq_iff
  have spelled : Literal.Spells ['-', '1', '.', '5'] ⟨true, 15, 1⟩ :=
    Literal.ofText?_eq_some_iff.mp rfl
  have blank : "\u00a0\t".toList.all Text.isBlank = true := by decide
  exact ⟨spelled, readable _ _ spelled, gaps _ _ _ (by decide) (List.all_eq_true.mp blank), rfl,
    rfl⟩

end Token

end PostfixSheet
