import PostfixSheet.Delimited.Sheet
import PostfixSheet.Proofs.Analysis.Flags
import PostfixSheet.Proofs.Document.Display
import PostfixSheet.Proofs.Evaluation.History
import PostfixSheet.Proofs.Formula.Likeness

/-! Printed text in place of a reference. A reference to a cell that holds a number can
be replaced by the text of the number, and no cell is printed differently. The sheet
loses a reference, which leads to an unflagged cell: a way to a fault that took it
would flag that cell, so every fault is still reached. The values of the two sheets
are alike but for the signs of zeros, which the text does not keep and printing does
not show. -/
namespace PostfixSheet.Sheet
open Relation

/-- The second sheet has a number where the first one has a reference to a cell that
comes to this number; printing has taken the sign of a zero from it. -/
structure Substitutes (left right : Sheet) (address target : Address) : Prop where
  widths : left.widths = right.widths
  elsewhere : ∀ other, other ≠ address → left.tokensAt other = right.tokensAt other
  here : ∃ before text after number, Address.ofText? text = some target ∧
    left.recalculate.1.valueAt? target = some (.number number) ∧
    left.tokensAt address = before ++ .reference text :: after ∧
    right.tokensAt address = before ++ .number number.withoutZeroSign :: after

namespace Substitutes

variable {left right : Sheet} {address target source reached : Address} {verdict done : Analysis}
  {token : Token}

theorem shape (substitutes : Substitutes left right address target) (other : Address) :
    (left.get? other).isSome = (right.get? other).isSome := by
  rw [Bool.eq_iff_iff, Table.isSome_get?_iff, Table.isSome_get?_iff, substitutes.widths]

theorem both_or_neither (substitutes : Substitutes left right address target) (other : Address) :
    left.get? other = none ∧ right.get? other = none ∨
      ∃ cell changed, left.get? other = some cell ∧ right.get? other = some changed := by
  have shape := substitutes.shape other
  cases inLeft : left.get? other <;> cases inRight : right.get? other <;>
    simp [inLeft, inRight] at shape ⊢

theorem targetOf?_eq (substitutes : Substitutes left right address target) (token : Token) :
    left.targetOf? token = right.targetOf? token := by
  cases token with
  | reference text => exact Table.map_fst_locate?_congr substitutes.shape text
  | _ => rfl

/-- Nothing new is written but the number. -/
theorem mem_left_or_number (substitutes : Substitutes left right address target)
    (member : token ∈ right.tokensAt source) :
    token ∈ left.tokensAt source ∨ ∃ number, token = .number number := by
  by_cases same : source = address
  · subst same
    obtain ⟨before, text, after, number, _, _, inLeft, inRight⟩ := substitutes.here
    rw [inRight] at member
    rw [inLeft]
    rcases List.mem_append.mp member with early | late
    · exact .inl (List.mem_append_left _ early)
    · rcases List.mem_cons.mp late with rfl | later
      · exact .inr ⟨_, rfl⟩
      · exact .inl (List.mem_append_right _ (List.mem_cons_of_mem _ later))
  · rw [substitutes.elsewhere source same]
    exact .inl member

/-- Nothing is taken away but a reference to the target. -/
theorem mem_right_or_lost (substitutes : Substitutes left right address target)
    (member : token ∈ left.tokensAt source) :
    token ∈ right.tokensAt source ∨ source = address ∧ left.targetOf? token = some target := by
  by_cases same : source = address
  · subst same
    obtain ⟨before, text, after, number, decoded, stored, inLeft, inRight⟩ := substitutes.here
    rw [inLeft] at member
    rw [inRight]
    rcases List.mem_append.mp member with early | late
    · exact .inl (List.mem_append_left _ early)
    · rcases List.mem_cons.mp late with rfl | later
      · obtain ⟨_, _, _, inSheet, _⟩ := exists_result_of_number stored
        refine .inr ⟨rfl, targetOf?_reference_eq_some_iff.mpr ⟨decoded, ?_⟩⟩
        rw [inSheet, Option.isSome_some]
      · exact .inl (List.mem_append_right _ (List.mem_cons_of_mem _ later))
  · rw [← substitutes.elsewhere source same]
    exact .inl member

theorem refers (substitutes : Substitutes left right address target)
    (refers : right.Refers source reached) : left.Refers source reached := by
  obtain ⟨token, member, named⟩ := refers_iff.mp refers
  rcases substitutes.mem_left_or_number member with inLeft | ⟨number, rfl⟩
  · exact refers_iff.mpr ⟨token, inLeft, (substitutes.targetOf?_eq token).trans named⟩
  · contradiction

theorem refers_or_lost (substitutes : Substitutes left right address target)
    (refers : left.Refers source reached) :
    right.Refers source reached ∨ reached = target := by
  obtain ⟨token, member, named⟩ := refers_iff.mp refers
  rcases substitutes.mem_right_or_lost member with inRight | ⟨_, lost⟩
  · exact .inl (refers_iff.mpr ⟨token, inRight, (substitutes.targetOf?_eq token).symm.trans named⟩)
  · exact .inr (Option.some.inj (named.symm.trans lost))

theorem leads (substitutes : Substitutes left right address target)
    (leads : TransGen right.Refers source reached) : TransGen left.Refers source reached :=
  TransGen.mono (fun _ _ => substitutes.refers) _ _ leads

theorem reaches (substitutes : Substitutes left right address target)
    (reaches : ReflTransGen right.Refers source reached) :
    ReflTransGen left.Refers source reached :=
  ReflTransGen.mono (fun _ _ => substitutes.refers) _ _ reaches

/-- A way that is lost went through the target. -/
theorem leads_or_lost (substitutes : Substitutes left right address target)
    (leads : TransGen left.Refers source reached) :
    TransGen right.Refers source reached ∨ ReflTransGen left.Refers target reached := by
  induction leads with
  | single refers =>
    rcases substitutes.refers_or_lost refers with kept | rfl
    · exact .inl (.single kept)
    · exact .inr .refl
  | tail _ refers ih =>
    rcases substitutes.refers_or_lost refers with kept | rfl
    · exact ih.imp (·.tail kept) (·.tail refers)
    · exact .inr .refl

theorem reaches_or_lost (substitutes : Substitutes left right address target)
    (reaches : ReflTransGen left.Refers source reached) :
    ReflTransGen right.Refers source reached ∨ ReflTransGen left.Refers target reached := by
  rcases reflTransGen_iff_eq_or_transGen.mp reaches with rfl | leads
  · exact .inl .refl
  · exact (substitutes.leads_or_lost leads).imp_left TransGen.to_reflTransGen

theorem no_fault_of_reaches (substitutes : Substitutes left right address target)
    (reaches : ReflTransGen left.Refers target reached)
    (fault : left.IsBroken reached ∨ left.OnCycle reached) : False := by
  obtain ⟨_, _, _, _, _, stored, _⟩ := substitutes.here
  obtain ⟨_, verdict, _, _, known, unflagged, _⟩ := exists_result_of_number stored
  have flagged := isFlagged_of_fault known reaches fault
  rw [unflagged] at flagged
  contradiction

theorem isBroken (substitutes : Substitutes left right address target)
    (broken : right.IsBroken reached) : left.IsBroken reached := by
  rcases broken with ⟨token, member, unreadable⟩ | itself
  · rcases substitutes.mem_left_or_number member with inLeft | ⟨number, rfl⟩
    · refine .inl ⟨token, inLeft, ?_⟩
      cases token with
      | reference text =>
        exact locate?_eq_none_iff.mpr
          ((substitutes.targetOf?_eq _).trans (locate?_eq_none_iff.mp unreadable))
      | _ => exact unreadable
    · exact unreadable.elim
  · exact .inr (substitutes.refers itself)

theorem isBroken_or_lost (substitutes : Substitutes left right address target)
    (broken : left.IsBroken reached) :
    right.IsBroken reached ∨ ReflTransGen left.Refers target reached := by
  rcases broken with ⟨token, member, unreadable⟩ | itself
  · rcases substitutes.mem_right_or_lost member with inRight | ⟨_, lost⟩
    · refine .inl (.inl ⟨token, inRight, ?_⟩)
      cases token with
      | reference text =>
        exact locate?_eq_none_iff.mpr
          ((substitutes.targetOf?_eq _).symm.trans (locate?_eq_none_iff.mp unreadable))
      | _ => exact unreadable
    · cases token with
      | reference text =>
        rw [locate?_eq_none_iff.mp unreadable] at lost
        contradiction
      | _ => contradiction
  · rcases substitutes.refers_or_lost itself with kept | rfl
    · exact .inl (.inr kept)
    · exact .inr .refl

theorem onCycle (substitutes : Substitutes left right address target)
    (onCycle : right.OnCycle reached) : left.OnCycle reached := by
  obtain ⟨other, different, away, back⟩ := onCycle
  exact ⟨other, different, substitutes.leads away, substitutes.leads back⟩

theorem onCycle_or_lost (substitutes : Substitutes left right address target)
    (onCycle : left.OnCycle reached) :
    right.OnCycle reached ∨ ReflTransGen left.Refers target reached := by
  obtain ⟨other, different, away, back⟩ := onCycle
  rcases substitutes.leads_or_lost away with awayToo | lost
  · rcases substitutes.leads_or_lost back with backToo | lost
    · exact .inl ⟨other, different, awayToo, backToo⟩
    · exact .inr lost
  · exact .inr (lost.trans back.to_reflTransGen)

theorem isFlagged_eq (substitutes : Substitutes left right address target)
    (known : left.verdict? source = some verdict) (isKnown : right.verdict? source = some done) :
    verdict.isFlagged = done.isFlagged := by
  rw [Bool.eq_iff_iff]
  constructor
  · intro flagged
    obtain ⟨reached, reaches, fault⟩ := exists_fault_of_isFlagged known flagged
    have away : ¬ReflTransGen left.Refers target reached :=
      fun lost => substitutes.no_fault_of_reaches lost fault
    have reachesToo := (substitutes.reaches_or_lost reaches).resolve_right away
    refine isFlagged_of_fault isKnown reachesToo ?_
    rcases fault with broken | onCycle
    · exact .inl ((substitutes.isBroken_or_lost broken).resolve_right away)
    · exact .inr ((substitutes.onCycle_or_lost onCycle).resolve_right away)
  · intro flagged
    obtain ⟨reached, reaches, fault⟩ := exists_fault_of_isFlagged isKnown flagged
    exact isFlagged_of_fault known (substitutes.reaches reaches)
      (fault.imp substitutes.isBroken substitutes.onCycle)

section lower

variable (lower : ∀ reached, left.Refers source reached → Option.Rel Value.Alike
  (left.recalculate.1.valueAt? reached) (right.recalculate.1.valueAt? reached))
include lower

/-- What is written in both sheets acts alike, if what the cell refers to is alike. -/
theorem actAlike_of_mem (substitutes : Substitutes left right address target)
    (member : token ∈ left.tokensAt source) :
    Formula.ActAlike left.recalculate.1.valueAt? right.recalculate.1.valueAt? token token := by
  apply Formula.actAlike_self token
  rintro text looked rfl decoded
  rcases targetOf?_of_decoded decoded with unnamed | named
  · rw [valueAt?_recalculate_of_unnamed decoded unnamed,
      valueAt?_recalculate_of_unnamed decoded ((substitutes.targetOf?_eq _).symm.trans unnamed)]
    exact .none
  · exact lower looked (refers_iff.mpr ⟨_, member, named⟩)

theorem actAlike (substitutes : Substitutes left right address target) :
    List.Forall₂ (Formula.ActAlike left.recalculate.1.valueAt? right.recalculate.1.valueAt?)
      (left.tokensAt source) (right.tokensAt source) := by
  have self : ∀ tokens, (∀ token ∈ tokens, token ∈ left.tokensAt source) →
      List.Forall₂ (Formula.ActAlike left.recalculate.1.valueAt? right.recalculate.1.valueAt?)
        tokens tokens := by
    intro tokens listed
    rw [List.forall₂_same]
    intro token member
    exact substitutes.actAlike_of_mem lower (listed token member)
  by_cases same : source = address
  · subst same
    obtain ⟨before, text, after, number, decoded, stored, inLeft, inRight⟩ := substitutes.here
    rw [inLeft] at self ⊢
    rw [inRight]
    refine List.rel_append (self before fun _ => List.mem_append_left _) (.cons ?_ ?_)
    · refine Formula.actAlike_number decoded stored (Binary64.alike_withoutZeroSign number) ?_
      rw [Binary64.isFinite_withoutZeroSign, isFinite_of_valueAt?_recalculate stored]
    · exact self after fun _ later => List.mem_append_right _ (List.mem_cons_of_mem _ later)
  · rw [← substitutes.elsewhere source same]
    exact self _ fun _ => id

end lower

/-- Values are alike, the induction being on the rank in the first sheet. -/
theorem valueAt?_alike (substitutes : Substitutes left right address target) (source : Address) :
    Option.Rel Value.Alike (left.recalculate.1.valueAt? source)
      (right.recalculate.1.valueAt? source) := by
  induction bound : left.rank source using Nat.strongRecOn generalizing source with
  | _ rank ih =>
    subst bound
    rcases substitutes.both_or_neither source with
      ⟨inLeft, inRight⟩ | ⟨cell, other, inLeft, inRight⟩
    · rw [valueAt?, valueAt?, get?_recalculate_eq_none inLeft, get?_recalculate_eq_none inRight]
      exact .none
    · obtain ⟨verdict, known, found⟩ := get?_recalculate inLeft
      obtain ⟨done, isKnown, isFound⟩ := get?_recalculate inRight
      have flags := substitutes.isFlagged_eq known isKnown
      simp only [valueAt?, found, isFound, Option.bind_some]
      apply Option.Rel.some
      cases flagged : verdict.isFlagged with
      | true =>
        simp only [compute, Cell.isFlagged, Option.any_some, ← flags, flagged, if_true]
        exact .error
      | false =>
        have lower := fun reached refers =>
          ih _ (unflagged_of_refers known flagged refers).1 reached rfl
        have outcomes := Formula.evaluateTokens_alike (substitutes.actAlike lower)
        rw [tokensAt_of_get? inLeft, tokensAt_of_get? inRight] at outcomes
        simp only [compute, Cell.isFlagged, Option.any_some, ← flags, flagged, Bool.false_eq_true,
          if_false, Formula.evaluate]
        generalize Formula.evaluateTokens left.recalculate.1.valueAt? _ = first at outcomes ⊢
        generalize Formula.evaluateTokens right.recalculate.1.valueAt? _ = second at outcomes ⊢
        cases outcomes with
        | ok alike => exact .number alike.roundToTenth
        | error fault => exact .error

theorem map_cellText_eq (substitutes : Substitutes left right address target) (marker : String) :
    right.recalculate.1.map (cellText marker) = left.recalculate.1.map (cellText marker) := by
  refine (map_cellText_eq_of_alike marker ?_ substitutes.valueAt?_alike).symm
  rw [widths_recalculate, widths_recalculate, substitutes.widths]

end Substitutes

variable {sheet : Sheet} {address target : Address} {source : Cell} {reference : String}
  {number : Binary64}

/-- A written reference to a number gives way to the text of the number. -/
theorem substitutes_setExpression (inSheet : sheet.get? address = some source)
    (place : Text.Occurrence source.expression.toList)
    (written : Token.ofWord place.word = .reference reference)
    (decoded : Address.ofText? reference = some target)
    (stored : sheet.recalculate.1.valueAt? target = some (.number number)) :
    Substitutes sheet
      (sheet.setExpression address (String.ofList (place.replace number.text.toList)))
      address target where
  widths := Table.widths_modify.symm
  elsewhere := by
    intro other different
    apply tokensAt_congr
    rw [setExpression, Table.get?_modify, if_neg different.symm]
  here := by
    refine ⟨(Text.words place.before).map Token.ofWord, reference,
      (Text.words place.after).map Token.ofWord, number, decoded, stored, ?_, ?_⟩
    · rw [tokensAt_of_get? inSheet, Token.ofExpression, place.words_eq, List.map_append,
        List.map_cons, written]
    · have changed : (sheet.setExpression address
          (String.ofList (place.replace number.text.toList))).get? address = some { source with
            expression := String.ofList (place.replace number.text.toList) } := by
        rw [setExpression, Table.get?_modify, if_pos rfl, inSheet, Option.map_some]
      have finite := isFinite_of_valueAt?_recalculate stored
      have printed : number.text.toList = number.plainText := by
        rw [Binary64.toList_text, roundToTenth_of_valueAt?_recalculate stored]
      rw [tokensAt_of_get? changed, Token.ofExpression, String.toList_ofList, printed,
        place.words_replace (Binary64.isVisible_plainText finite), List.map_append, List.map_cons,
        Binary64.ofWord_plainText finite]

/-- Where a reference leads to a number, the text of the number can stand in its place
and no cell is printed differently. Every reference of an expression has its place. -/
theorem recalculate_replace_reference (sheet : Sheet) (inSheet : sheet.get? address = some source)
    (decoded : Address.ofText? reference = some target)
    (stored : sheet.recalculate.1.valueAt? target = some (.number number)) :
    (∀ before after,
      Token.ofExpression source.expression = before ++ .reference reference :: after →
        ∃ place : Text.Occurrence source.expression.toList,
          (Text.words place.before).map Token.ofWord = before ∧
            Token.ofWord place.word = .reference reference ∧
            (Text.words place.after).map Token.ofWord = after) ∧
    ∀ place : Text.Occurrence source.expression.toList,
      Token.ofWord place.word = .reference reference →
        let changed :=
          sheet.setExpression address (String.ofList (place.replace number.text.toList))
        ∀ marker, changed.recalculate.1.map (cellText marker) =
          sheet.recalculate.1.map (cellText marker) := by
  constructor
  · intro before after split
    obtain ⟨firsts, rest, listed, rfl, tail⟩ := List.map_eq_append_iff.mp split
    obtain ⟨word, later, rfl, written, rfl⟩ := List.map_eq_cons_iff.mp tail
    obtain ⟨place, rfl, rfl, rfl⟩ := Text.exists_occurrence listed
    exact ⟨place, rfl, written, rfl⟩
  · intro place written changed marker
    exact (substitutes_setExpression inSheet place written decoded stored).map_cellText_eq marker

/-- A divisor that is rounded to a negative zero and printed without its sign. -/
theorem recalculate_replace_reference_to_negative_zero :
    let sheet := ofRows [["A2 B1 +", "-0.04"], ["1 B1 /"]]
    let number := (Literal.value ⟨true, 4, 2⟩).roundToTenth
    sheet.recalculate.1.valueAt? ⟨1, 0⟩ = some (.number number) ∧
      ∃ place : Text.Occurrence "1 B1 /".toList, Token.ofWord place.word = .reference "B1" ∧
        let changed := sheet.setExpression ⟨0, 1⟩ (String.ofList (place.replace number.text.toList))
        ∀ marker, changed.recalculate.1.map (cellText marker) =
          sheet.recalculate.1.map (cellText marker) := by
  intro sheet number
  have inSheet : sheet.get? ⟨0, 1⟩ = some { expression := "1 B1 /" } := rfl
  have divisor : sheet.get? ⟨1, 0⟩ = some { expression := "-0.04" } := rfl
  have stored : sheet.recalculate.1.valueAt? ⟨1, 0⟩ = some (.number number) := by
    apply valueAt?_recalculate_of_ok divisor
    have tokens : Token.ofExpression "-0.04" = [.number (Literal.value ⟨true, 4, 2⟩)] := by
      decide +kernel
    have finite : (Literal.value ⟨true, 4, 2⟩).isFinite = true := by decide +kernel
    exact Formula.evaluate_of_literal tokens finite
  have decoded : Address.ofText? "B1" = some ⟨1, 0⟩ := by decide +kernel
  have split : Token.ofExpression "1 B1 /" =
      [.number (Literal.value ⟨false, 1, 0⟩)] ++ .reference "B1" :: [.operator .divide] := by
    decide +kernel
  obtain ⟨places, replaced⟩ := recalculate_replace_reference sheet inSheet decoded stored
  obtain ⟨place, _, written, _⟩ := places _ _ split
  exact ⟨stored, place, written, replaced place written⟩

end PostfixSheet.Sheet
