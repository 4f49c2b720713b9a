import PostfixSheet.Proofs.Delimited.Lines
import PostfixSheet.Proofs.Formula.Words
import Mathlib.Logic.Relation

/-! Spacing and line endings. A delimited text can be spaced in another way: its line feeds
turned into carriage returns and line feeds, its last line ended, one gap between words
replaced by another, and a gap put in where a field starts or ends. No such edit moves a
line or a field, and the words of every field stay the same. A carriage return is a blank,
so it does not matter to the words which of them belong to the line endings. -/
namespace PostfixSheet.Delimited
open Text Relation

variable {delimiter : Char} {text other before after gap left right : List Char}

/-- A run of blanks that does not leave its line. -/
structure IsGap (gap : List Char) : Prop where
  ne_nil : gap ≠ []
  blank : ∀ char ∈ gap, isBlank char = true
  unbroken : '\n' ∉ gap

/-- A field starts between the two texts: at the start of a line or behind a delimiter. -/
inductive StartsField (delimiter : Char) : List Char → List Char → Prop
  | text {after : List Char} (present : after ≠ []) : StartsField delimiter [] after
  | line (before : List Char) {after : List Char} (present : after ≠ []) :
      StartsField delimiter (before ++ ['\n']) after
  | next (before after : List Char) : StartsField delimiter (before ++ [delimiter]) after

/-- A field ends between the two texts: in front of a delimiter or of a line ending, or at
the end of a text whose last line is open. -/
inductive EndsField (delimiter : Char) : List Char → List Char → Prop
  | next (before after : List Char) : EndsField delimiter before (delimiter :: after)
  | feed (before after : List Char) : EndsField delimiter before ('\n' :: after)
  | ending (before after : List Char) : EndsField delimiter before ('\r' :: '\n' :: after)
  | text {before : List Char} (present : before ≠ []) (isOpen : before.getLast? ≠ some '\n') :
      EndsField delimiter before []

/-- One edit of the spacing: a carriage return in front of a line feed, a line feed behind
the last line, another gap for a gap, or a new gap where a field starts or stops. -/
inductive Respaced (delimiter : Char) : List Char → List Char → Prop
  | feed (before after : List Char) :
      Respaced delimiter (before ++ '\n' :: after) (before ++ '\r' :: '\n' :: after)
  | final {text : List Char} (present : text ≠ []) (isOpen : text.getLast? ≠ some '\n') :
      Respaced delimiter text (text ++ ['\n'])
  | gap (before after : List Char) {gap other : List Char} (isGap : IsGap gap)
      (isOther : IsGap other) :
      Respaced delimiter (before ++ gap ++ after) (before ++ other ++ after)
  | start (before after : List Char) {gap : List Char} (starts : StartsField delimiter before after)
      (isGap : IsGap gap) : Respaced delimiter (before ++ after) (before ++ gap ++ after)
  | stop (before after : List Char) {gap : List Char} (ends : EndsField delimiter before after)
      (isGap : IsGap gap) : Respaced delimiter (before ++ after) (before ++ gap ++ after)

/-- The text does not leave its field. -/
def InField (delimiter : Char) (text : List Char) : Prop := delimiter ∉ text ∧ '\n' ∉ text

namespace IsGap

theorem inField (isGap : IsGap gap) (visible : isBlank delimiter = false) :
    InField delimiter gap := by
  refine ⟨fun member => ?_, isGap.unbroken⟩
  rw [isGap.blank delimiter member] at visible
  contradiction

theorem words_eq (isGap : IsGap gap) (left right : List Char) :
    words (left ++ gap ++ right) = words left ++ words right :=
  words_append_gap isGap.ne_nil isGap.blank

/-- A gap leaves a line open. -/
theorem missingFeed_eq (isGap : IsGap gap) (before after : List Char) :
    missingFeed (before ++ gap ++ after) = if after = [] then ['\n'] else missingFeed after := by
  split
  · rename_i atEnd
    rw [atEnd, List.append_nil, missingFeed_append isGap.ne_nil,
      missingFeed_of_not_mem isGap.unbroken, if_neg isGap.ne_nil]
  · rename_i present
    exact missingFeed_append present

theorem singleton {char : Char} (blank : isBlank char = true) (apart : char ≠ '\n') :
    IsGap [char] where
  ne_nil := List.cons_ne_nil _ _
  blank := by
    rintro _ (_ | _)
    · exact blank
    · contradiction
  unbroken := mt List.mem_singleton.mp apart.symm

theorem append (first : IsGap left) (second : IsGap right) : IsGap (left ++ right) where
  ne_nil := List.append_ne_nil_of_left_ne_nil first.ne_nil _
  blank := List.forall_mem_append.mpr ⟨first.blank, second.blank⟩
  unbroken := by
    rw [List.mem_append, not_or]
    exact ⟨first.unbroken, second.unbroken⟩

theorem of_return : IsGap ['\r'] := singleton (by decide) (by decide)

end IsGap

def lineWords (delimiter : Char) (line : List Char) : List (List (List Char)) :=
  (line.splitOn delimiter).map words

def fieldWords (delimiter : Char) (text : List Char) : List (List (List (List Char))) :=
  (lines text).map (lineWords delimiter)

theorem lineWords_congr (outText : delimiter ∉ text) (outOther : delimiter ∉ other)
    (same : ∀ left right, left <:+ before → delimiter ∉ left → right <+: after →
      delimiter ∉ right → words (left ++ text ++ right) = words (left ++ other ++ right)) :
    lineWords delimiter (before ++ text ++ after) =
      lineWords delimiter (before ++ other ++ after) := by
  obtain ⟨front, left, right, back, isSuffix, outLeft, isPrefix, outRight, split⟩ :=
    exists_piece_around delimiter before after
  simp only [lineWords, split text outText, split other outOther, List.map_append, List.map_cons,
    same left right isSuffix outLeft isPrefix outRight]

theorem lineWords_dropReturn (visible : isBlank delimiter = false) (line : List Char) :
    lineWords delimiter (dropReturn line) = lineWords delimiter line := by
  unfold dropReturn
  split
  · rename_i last
    obtain ⟨front, rfl⟩ := List.getLast?_eq_some_iff.mp last
    have dropped : lineWords delimiter (front ++ [] ++ []) =
        lineWords delimiter (front ++ ['\r'] ++ []) := by
      refine lineWords_congr List.not_mem_nil (IsGap.of_return.inField visible).1 ?_
      intro left right _ _ isPrefix _
      obtain rfl := List.prefix_nil.mp isPrefix
      rw [IsGap.of_return.words_eq, words_nil, List.append_nil, List.append_nil, List.append_nil]
    rw [List.dropLast_concat]
    simpa only [List.append_nil] using dropped
  · rfl

/-- Texts that take each other's place within a field change no words if they change none
between the texts that can be next to them in the field. They must not differ in whether
the whole text ends its last line. -/
theorem fieldWords_congr (visible : isBlank delimiter = false) (inText : InField delimiter text)
    (inOther : InField delimiter other)
    (feeds : missingFeed (before ++ text ++ after) = missingFeed (before ++ other ++ after))
    (same : ∀ left right, left <:+ before → InField delimiter left → right <+: after →
      InField delimiter right → words (left ++ text ++ right) = words (left ++ other ++ right)) :
    fieldWords delimiter (before ++ text ++ after) =
      fieldWords delimiter (before ++ other ++ after) := by
  obtain ⟨front, left, right, back, isSuffix, outLeft, isPrefix, outRight, split⟩ :=
    exists_piece_around '\n' before after
  have line : lineWords delimiter (left ++ text ++ right) =
      lineWords delimiter (left ++ other ++ right) := by
    refine lineWords_congr inText.1 inOther.1 fun first last inLeft first' inRight last' => ?_
    exact same first last (inLeft.trans isSuffix) ⟨first', fun feed => outLeft (inLeft.subset feed)⟩
      (inRight.trans isPrefix) ⟨last', fun feed => outRight (inRight.subset feed)⟩
  simp only [fieldWords, map_lines (lineWords_dropReturn visible), feeds, split text inText.2,
    split other inOther.2, List.map_append, List.map_cons, line]

/-- A field has an edge between the two texts. The line does not end there by itself, and
of what belongs to the field one side at most has a word next to the edge. -/
structure IsEdge (delimiter : Char) (before after : List Char) : Prop where
  isOpen : after = [] → missingFeed before = ['\n']
  loose : ∀ left right, left <:+ before → InField delimiter left → right <+: after →
    InField delimiter right → words (left ++ right) = words left ++ words right

theorem eq_nil_of_suffix_concat {char : Char} (isSuffix : left <:+ before ++ [char])
    (apart : char ∉ left) : left = [] := by
  rcases List.suffix_concat_iff.mp isSuffix with empty | ⟨rest, rfl, _⟩
  · exact empty
  · simp at apart

theorem eq_nil_of_prefix_cons {char : Char} (isPrefix : right <+: char :: after)
    (apart : char ∉ right) : right = [] := by
  rcases List.prefix_cons_iff.mp isPrefix with empty | ⟨rest, rfl, _⟩
  · exact empty
  · simp at apart

theorem StartsField.isEdge (starts : StartsField delimiter before after)
    (visible : isBlank delimiter = false) : IsEdge delimiter before after := by
  have leftmost : ∀ left, left <:+ before → InField delimiter left → left = [] := by
    intro left isSuffix inField
    cases starts with
    | text => exact List.suffix_nil.mp isSuffix
    | line => exact eq_nil_of_suffix_concat isSuffix inField.2
    | next => exact eq_nil_of_suffix_concat isSuffix inField.1
  constructor
  · intro atEnd
    cases starts with
    | text present => contradiction
    | line present => contradiction
    | next =>
      have apart : delimiter ≠ '\n' := by
        rintro rfl
        contradiction
      rw [missingFeed_append (List.cons_ne_nil _ _),
        missingFeed_of_not_mem (mt List.mem_singleton.mp apart.symm)]
      rfl
  · intro left right isSuffix inField _ _
    rw [leftmost left isSuffix inField]
    rfl

theorem EndsField.isEdge (ends : EndsField delimiter before after) :
    IsEdge delimiter before after := by
  have rightmost : ∀ right, right <+: after → InField delimiter right →
      right = [] ∨ right = ['\r'] := by
    intro right isPrefix inField
    cases ends with
    | next => exact .inl (eq_nil_of_prefix_cons isPrefix inField.1)
    | feed => exact .inl (eq_nil_of_prefix_cons isPrefix inField.2)
    | ending =>
      rcases List.prefix_cons_iff.mp isPrefix with empty | ⟨rest, rfl, behind⟩
      · exact .inl empty
      · have unbroken : '\n' ∉ rest := fun member => inField.2 (List.mem_cons_of_mem _ member)
        exact .inr (congrArg _ (eq_nil_of_prefix_cons behind unbroken))
    | text => exact .inl (List.prefix_nil.mp isPrefix)
  constructor
  · intro atEnd
    cases ends with
    | text present isOpen => exact if_neg (not_or.mpr ⟨present, isOpen⟩)
    | _ => contradiction
  · intro left right _ _ isPrefix inField
    rcases rightmost right isPrefix inField with rfl | rfl
    · rw [words_nil, List.append_nil, List.append_nil]
    · have split := IsGap.of_return.words_eq left []
      rwa [List.append_nil] at split

/-- A gap at an edge of a field changes no words. -/
theorem IsEdge.fieldWords_eq (edge : IsEdge delimiter before after) (isGap : IsGap gap)
    (visible : isBlank delimiter = false) :
    fieldWords delimiter (before ++ after) = fieldWords delimiter (before ++ gap ++ after) := by
  have nothing : InField delimiter [] := ⟨List.not_mem_nil, List.not_mem_nil⟩
  have padded : fieldWords delimiter (before ++ [] ++ after) =
      fieldWords delimiter (before ++ gap ++ after) := by
    refine fieldWords_congr visible nothing (isGap.inField visible) ?_ ?_
    · rw [isGap.missingFeed_eq, List.append_nil]
      split
      · rename_i atEnd
        rw [atEnd, List.append_nil, edge.isOpen atEnd]
      · rename_i present
        exact missingFeed_append present
    · intro left right isSuffix inLeft isPrefix inRight
      rw [isGap.words_eq, List.append_nil, edge.loose left right isSuffix inLeft isPrefix inRight]
  rwa [List.append_nil] at padded

/-- An edit of the spacing changes no words. -/
theorem Respaced.fieldWords_eq (respaced : Respaced delimiter text other)
    (visible : isBlank delimiter = false) :
    fieldWords delimiter text = fieldWords delimiter other := by
  cases respaced with
  | feed before after =>
    have padded := (EndsField.feed before after).isEdge.fieldWords_eq IsGap.of_return visible
    rwa [List.append_assoc] at padded
  | final present isOpen =>
    have lacking : missingFeed text = ['\n'] := if_neg (not_or.mpr ⟨present, isOpen⟩)
    have ended : missingFeed (text ++ ['\n']) = [] := missingFeed_append_cons text []
    rw [fieldWords, fieldWords, map_lines (lineWords_dropReturn visible),
      map_lines (lineWords_dropReturn visible), lacking, ended,
      if_neg (List.cons_ne_nil _ _), if_pos rfl, List.splitOn_append_cons_self, List.splitOn_nil,
      List.map_append, List.map_singleton, List.dropLast_concat]
  | gap before after isGap isOther =>
    refine fieldWords_congr visible (isGap.inField visible) (isOther.inField visible) ?_ ?_
    · rw [isGap.missingFeed_eq, isOther.missingFeed_eq]
    · intro left right _ _ _ _
      rw [isGap.words_eq, isOther.words_eq]
  | start before after starts isGap => exact (starts.isEdge visible).fieldWords_eq isGap visible
  | stop before after ends isGap => exact ends.isEdge.fieldWords_eq isGap visible

theorem map_ofExpression_parse (delimiter : Char) (text : String) :
    (parse delimiter text).map (List.map Token.ofExpression) =
      (fieldWords delimiter text.toList).map (List.map (List.map Token.ofWord)) := by
  simp only [parse, fieldWords, lineWords, Token.ofExpression, List.map_map, Function.comp_def,
    String.toList_ofList]

/-- However often the spacing is edited, the fields have the same tokens. -/
theorem map_ofExpression_parse_congr {text other : String} (visible : isBlank delimiter = false)
    (edits : ReflTransGen (Respaced delimiter) text.toList other.toList) :
    (parse delimiter text).map (List.map Token.ofExpression) =
      (parse delimiter other).map (List.map Token.ofExpression) := by
  rw [map_ofExpression_parse, map_ofExpression_parse]
  generalize text.toList = first at edits ⊢
  generalize other.toList = last at edits ⊢
  induction edits with
  | refl => rfl
  | tail _ respaced ih => rw [ih, respaced.fieldWords_eq visible]

end PostfixSheet.Delimited
