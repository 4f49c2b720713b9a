import PostfixSheet.Formula.Token
import PostfixSheet.Proofs.Number.Reading
import PostfixSheet.Proofs.Number.Tenths

/-! Words at their places. Text next to a word is cut off by a blank or by an end of
the text, so the words of a text are those before the place, the word and those
behind it, and another word can be put in the place without moving a boundary. A
printed number is one word, and the token of this word is the number. -/
namespace PostfixSheet

namespace Text

variable {text before word after gap : List Char}

/-- A word may follow the text. -/
def EndsBlank (text : List Char) : Prop := ∀ char ∈ text.getLast?, isBlank char = true

/-- The text may follow a word. -/
def StartsBlank (text : List Char) : Prop := ∀ char ∈ text.head?, isBlank char = true

/-- Something to see and no blank: the words of a text are of this kind. -/
structure IsVisible (word : List Char) : Prop where
  ne_nil : word ≠ []
  not_blank : ∀ char ∈ word, isBlank char = false

theorem words_nil : words [] = [] := rfl

theorem words_append_cons {blank : Char} (separates : isBlank blank = true) :
    words (before ++ blank :: after) = words before ++ words after := by
  rw [words, List.splitOnP_append_cons _ _ separates, List.filter_append]
  rfl

theorem words_cons {blank : Char} (separates : isBlank blank = true) :
    words (blank :: after) = words after := by
  rw [← List.nil_append (blank :: after), words_append_cons separates, words_nil, List.nil_append]

theorem words_of_not_blank (clean : ∀ char ∈ word, isBlank char = false) :
    words word = if word.isEmpty then [] else [word] := by
  rw [words, List.splitOnP_eq_singleton clean]
  cases word with
  | nil => rfl
  | cons first rest => rfl

theorem IsVisible.words_eq (visible : IsVisible word) : words word = [word] := by
  rw [words_of_not_blank visible.not_blank,
    if_neg (by simpa only [List.isEmpty_iff] using visible.ne_nil)]

theorem words_append_of_startsBlank (starts : StartsBlank after) :
    words (text ++ after) = words text ++ words after := by
  cases after with
  | nil => rw [words_nil, List.append_nil, List.append_nil]
  | cons blank rest =>
    have separates : isBlank blank = true := starts blank rfl
    rw [words_append_cons separates, words_cons separates]

theorem words_append_of_endsBlank (ends : EndsBlank before) :
    words (before ++ text) = words before ++ words text := by
  rcases List.eq_nil_or_concat before with rfl | ⟨rest, blank, rfl⟩
  · rfl
  · have separates : isBlank blank = true := ends blank (by simp)
    rw [List.concat_eq_append, List.append_assoc, List.singleton_append,
      words_append_cons separates, words_append_cons separates, words_nil, List.append_nil]

theorem words_of_blank (blank : ∀ char ∈ gap, isBlank char = true) : words gap = [] := by
  induction gap with
  | nil => rfl
  | cons first rest ih =>
    rw [words_cons (blank first List.mem_cons_self)]
    exact ih fun char member => blank char (List.mem_cons_of_mem _ member)

theorem words_blank_append (blank : ∀ char ∈ gap, isBlank char = true) :
    words (gap ++ text) = words text := by
  have ends : EndsBlank gap := fun char last => blank char (List.mem_of_getLast? last)
  rw [words_append_of_endsBlank ends, words_of_blank blank, List.nil_append]

theorem words_append_gap (nonempty : gap ≠ []) (blank : ∀ char ∈ gap, isBlank char = true) :
    words (before ++ gap ++ after) = words before ++ words after := by
  cases gap with
  | nil => exact absurd rfl nonempty
  | cons first rest =>
    have inRest : ∀ char ∈ rest, isBlank char = true :=
      fun char member => blank char (List.mem_cons_of_mem _ member)
    rw [List.append_assoc, List.cons_append, words_append_cons (blank first List.mem_cons_self),
      words_blank_append inRest]

/-- Between the space and the end of ASCII no character is blank. -/
theorem isBlank_eq_false_of_code {char : Char} (first : 33 ≤ char.toNat)
    (last : char.toNat ≤ 126) : isBlank char = false := by
  have apart : ∀ range ∈ blankRanges, range.last < 33 ∨ 126 < range.first := by decide
  rw [Bool.eq_false_iff]
  intro blank
  obtain ⟨range, listed, low, high⟩ := inRanges_iff.mp blank
  have outside := apart range listed
  omega

/-- A word of a text at its place. -/
structure Occurrence (text : List Char) where
  before : List Char
  word : List Char
  after : List Char
  joined : before ++ word ++ after = text
  visible : IsVisible word
  ends : EndsBlank before
  starts : StartsBlank after

namespace Occurrence

/-- Another text in the place of the word. -/
def replace (place : Occurrence text) (other : List Char) : List Char :=
  place.before ++ other ++ place.after

theorem words_replace (place : Occurrence text) {other : List Char} (visible : IsVisible other) :
    words (place.replace other) = words place.before ++ other :: words place.after := by
  rw [replace, words_append_of_startsBlank place.starts, words_append_of_endsBlank place.ends,
    visible.words_eq, List.append_assoc, List.singleton_append]

theorem words_eq (place : Occurrence text) :
    words text = words place.before ++ place.word :: words place.after := by
  have same := place.words_replace place.visible
  rwa [replace, place.joined] at same

/-- The place in a longer text, with one more blank in front. -/
def shift (place : Occurrence text) (run : List Char) {blank : Char}
    (separates : isBlank blank = true) : Occurrence (run ++ blank :: text) where
  before := run ++ blank :: place.before
  word := place.word
  after := place.after
  joined := by
    simp only [List.append_assoc, List.cons_append, ← place.joined]
  visible := place.visible
  ends := by
    intro char last
    rw [List.getLast?_append, List.getLast?_cons, Option.some_or, Option.mem_some_iff] at last
    cases end? : place.before.getLast? with
    | none =>
      rw [end?, Option.getD_none] at last
      exact last ▸ separates
    | some final =>
      rw [end?, Option.getD_some] at last
      exact last ▸ place.ends final end?
  starts := place.starts

end Occurrence

/-- A text starts with a run that has no blank, up to the first blank or its end. -/
theorem exists_run (text : List Char) :
    ∃ run after, text = run ++ after ∧ (∀ char ∈ run, isBlank char = false) ∧
      StartsBlank after := by
  induction text with
  | nil => exact ⟨[], [], rfl, nofun, nofun⟩
  | cons first rest ih =>
    cases blank : isBlank first with
    | true =>
      refine ⟨[], first :: rest, rfl, nofun, ?_⟩
      intro char head
      obtain rfl := Option.some.inj head
      exact blank
    | false =>
      obtain ⟨run, after, rfl, clean, starts⟩ := ih
      refine ⟨first :: run, after, rfl, ?_, starts⟩
      intro char member
      rcases List.mem_cons.mp member with rfl | inRun
      · exact blank
      · exact clean char inRun

/-- A listed word is the first run itself, or it is listed among the words behind it. -/
theorem run_or_behind {run : List Char} {behind firsts rest : List (List Char)}
    (clean : ∀ char ∈ run, isBlank char = false)
    (listed : words run ++ behind = firsts ++ word :: rest) :
    (run ≠ [] ∧ firsts = [] ∧ run = word ∧ behind = rest) ∨
      ∃ later, firsts = words run ++ later ∧ behind = later ++ word :: rest := by
  rw [words_of_not_blank clean] at listed ⊢
  cases run with
  | nil => exact .inr ⟨firsts, rfl, listed⟩
  | cons first run =>
    cases firsts with
    | nil =>
      obtain ⟨same, tail⟩ := List.cons.inj listed
      exact .inl ⟨List.cons_ne_nil _ _, rfl, same, tail⟩
    | cons other later =>
      obtain ⟨rfl, tail⟩ := List.cons.inj listed
      exact .inr ⟨later, rfl, tail⟩

/-- Every word of a text has a place in it. -/
theorem exists_occurrence {firsts rest : List (List Char)}
    (listed : words text = firsts ++ word :: rest) :
    ∃ place : Occurrence text,
      place.word = word ∧ words place.before = firsts ∧ words place.after = rest := by
  -- Induction on the length: behind the first run and a blank the text is shorter.
  induction size : text.length using Nat.strongRecOn generalizing text firsts with
  | _ length ih =>
    obtain ⟨run, after, rfl, clean, starts⟩ := exists_run text
    rw [words_append_of_startsBlank starts] at listed
    rcases run_or_behind clean listed with ⟨nonempty, rfl, rfl, tail⟩ | ⟨later, rfl, tail⟩
    · exact ⟨⟨[], run, after, rfl, ⟨nonempty, clean⟩, nofun, starts⟩, rfl, rfl, tail⟩
    · cases after with
      | nil => exact absurd (List.append_eq_nil_iff.mp tail.symm).2 (List.cons_ne_nil _ _)
      | cons blank after =>
        have separates : isBlank blank = true := starts blank rfl
        have shorter : after.length < length := by
          rw [← size, List.length_append, List.length_cons]
          omega
        rw [words_cons separates] at tail
        obtain ⟨place, same, inFront, rest⟩ := ih _ shorter tail rfl
        refine ⟨place.shift run separates, same, ?_, rest⟩
        rw [← inFront]
        exact words_append_cons separates

end Text

namespace Token

variable {expression before gap after : String}

theorem ofExpression_of_visible (visible : Text.IsVisible expression.toList) :
    ofExpression expression = [ofWord expression.toList] := by
  rw [ofExpression, visible.words_eq, List.map_singleton]

theorem ofExpression_append_gap (nonempty : gap ≠ "")
    (blank : ∀ char ∈ gap.toList, Text.isBlank char = true) :
    ofExpression (before ++ gap ++ after) = ofExpression before ++ ofExpression after := by
  have chars : gap.toList ≠ [] := by simpa only [ne_eq, String.toList_eq_nil_iff] using nonempty
  rw [ofExpression, String.toList_append, String.toList_append, Text.words_append_gap chars blank,
    List.map_append]
  rfl

end Token

namespace Binary64
open Text

variable {number : Binary64} {char : Char}

theorem isBlank_of_isNumberChar (printed : isNumberChar char = true) : isBlank char = false := by
  have code : 45 ≤ char.toNat ∧ char.toNat ≤ 57 := by
    simp only [isNumberChar, Bool.or_eq_true, beq_iff_eq, isDigit_iff] at printed
    rcases printed with (digit | rfl) | rfl
    · omega
    · decide
    · decide
  exact isBlank_eq_false_of_code (by omega) (by omega)

theorem isVisible_plainText (finite : number.isFinite = true) : IsVisible (plainText number) := by
  cases number with
  | nan => contradiction
  | infinite negative => contradiction
  | finite negative code =>
    constructor
    · intro nothing
      obtain ⟨literal, read, _⟩ := exists_literal_plainText negative code
      rw [nothing] at read
      contradiction
    · intro char member
      exact isBlank_of_isNumberChar (isNumberChar_of_mem_plainText member)

theorem ofWord_plainText (finite : number.isFinite = true) :
    Token.ofWord (plainText number) = .number number.withoutZeroSign := by
  cases number with
  | nan => contradiction
  | infinite negative => contradiction
  | finite negative code =>
    obtain ⟨literal, read, value⟩ := exists_literal_plainText negative code
    rw [Token.ofWord_of_literal read, value]

theorem ofWord_text (finite : number.isFinite = true) :
    Token.ofWord number.text.toList = .number number.roundToTenth.withoutZeroSign := by
  rw [toList_text, ofWord_plainText (isFinite_roundToTenth.trans finite)]

theorem ofExpression_text (finite : number.isFinite = true) :
    Token.ofExpression number.text = [.number number.roundToTenth.withoutZeroSign] := by
  have visible : IsVisible number.text.toList :=
    toList_text number ▸ isVisible_plainText (isFinite_roundToTenth.trans finite)
  rw [Token.ofExpression_of_visible visible, ofWord_text finite]

/-- The text of a finite number is one token, and this token is a number with the value
that the number is rounded to. Rounding and printing do not move it again. -/
theorem reread_text (finite : number.isFinite = true) :
    ∃ read amount,
      Token.ofExpression number.text = [.number read] ∧
      Token.ofWord number.text.toList = .number read ∧
      read.amount? = some amount ∧ number.roundToTenth.amount? = some amount ∧
      number.roundToTenth.roundToTenth = number.roundToTenth ∧
      read.roundToTenth = read ∧ read.text = number.text := by
  obtain ⟨negative, code, rounded, _⟩ := exists_settled_of_isFinite finite
  have stays := roundToTenth_roundToTenth number
  have amount : number.roundToTenth.amount? = some (signed negative (units code)) := by
    rw [rounded, amount?]
  have printed : number.roundToTenth.withoutZeroSign.text = number.text := by
    rw [← number.roundToTenth.alike_withoutZeroSign.text_eq, text, stays, ← text]
  exact ⟨_, _, ofExpression_text finite, ofWord_text finite,
    (amount?_withoutZeroSign _).trans amount, amount, stays, roundToTenth_withoutZeroSign stays,
    printed⟩

/-- The number 2^50 + 1/4 is read from a text that is a twentieth away. -/
theorem reread_text_coarse_quarter :
    let number : Binary64 := .finite false ⟨1073 * fractionCount + 1, by decide⟩
    number.isFinite = true ∧ number.text = "1125899906842624.3" ∧
      number.amount? = some (1125899906842624 * oneUnits + oneUnits / 4) ∧
      ∃ read, Token.ofExpression number.text = [.number read] ∧ read.amount? = number.amount? ∧
        read.text = number.text := by
  intro number
  have finite : number.isFinite = true := rfl
  have rounded : number.roundToTenth = number := by decide +kernel
  obtain ⟨read, amount, token, _, value, same, _, _, printed⟩ := reread_text finite
  rw [rounded] at same
  exact ⟨finite, by decide +kernel, by decide +kernel, read, token, value.trans same.symm, printed⟩

end Binary64

end PostfixSheet
