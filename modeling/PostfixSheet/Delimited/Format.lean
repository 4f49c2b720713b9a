import PostfixSheet.Text.Blank
import PostfixSheet.Text.Quoted
import PostfixSheet.Number.Spelling
import PostfixSheet.Formula.Value

/-! The format of a sheet's text: the delimiter between fields and the marker
for cells in error. A delimiter is one character that is not blank. A marker must
be visible, must not pass for a number and must not hold the delimiter. -/
namespace PostfixSheet

def defaultDelimiter : Char := ','

structure Format where
  delimiter : Char := defaultDelimiter
  marker : String := defaultMarker
deriving DecidableEq, Repr

inductive FormatFault where
  | delimiterText (text : String)
  | markerBlank (marker : String)
  | markerNumber (marker : String)
  | markerDelimiter (marker : String) (delimiter : Char)
deriving DecidableEq, Repr

namespace FormatFault
open Text

def message : FormatFault → String
  | .delimiterText text =>
      "Invalid delimiter " ++ quoted text ++ ": must be a single non-whitespace character"
  | .markerBlank marker =>
      "error marker " ++ quoted marker ++ " must be non-empty without whitespace"
  | .markerNumber marker => "error marker " ++ quoted marker ++ " looks like a number"
  | .markerDelimiter marker delimiter =>
      "error marker " ++ quoted marker ++ " contains the delimiter " ++ quotedChar delimiter

end FormatFault

namespace Format

def readDelimiter (text : String) : Except FormatFault Char :=
  match text.toList with
  | [char] => if Text.isBlank char then .error (.delimiterText text) else .ok char
  | _ => .error (.delimiterText text)

def checkMarker (marker : String) (delimiter : Char) : Except FormatFault Unit :=
  let chars := marker.toList
  if chars.isEmpty || chars.any Text.isBlank then .error (.markerBlank marker)
  else if Spelling.isNumber chars then .error (.markerNumber marker)
  else if chars.contains delimiter then .error (.markerDelimiter marker delimiter)
  else .ok ()

theorem readDelimiter_eq_ok_iff {text : String} {delimiter : Char} :
    readDelimiter text = .ok delimiter ↔
      text = String.singleton delimiter ∧ Text.isBlank delimiter = false := by
  constructor
  · intro read
    unfold readDelimiter at read
    split at read
    next char single =>
      split at read
      next => contradiction
      next visible =>
        obtain rfl := Except.ok.inj read
        refine ⟨String.toList_inj.mp ?_, by simpa using visible⟩
        rw [single, String.toList_singleton]
    next => contradiction
  · rintro ⟨rfl, visible⟩
    simp [readDelimiter, visible]

/-- All that can be wrong with the default marker is the delimiter beside it. -/
theorem checkMarker_defaultMarker (delimiter : Char) :
    checkMarker defaultMarker delimiter =
      if delimiter ∈ defaultMarker.toList then .error (.markerDelimiter defaultMarker delimiter)
      else .ok () := by
  have visible :
      (defaultMarker.toList.isEmpty || defaultMarker.toList.any Text.isBlank) = false := by decide
  have wordy : Spelling.isNumber defaultMarker.toList = false := by decide
  simp only [checkMarker, visible, wordy, Bool.false_eq_true, if_false, List.contains_iff_mem]

end Format

end PostfixSheet
