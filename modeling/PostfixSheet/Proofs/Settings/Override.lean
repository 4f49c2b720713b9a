import PostfixSheet.Proofs.CommandLine.Effects
import PostfixSheet.Proofs.Settings.Clash

/-! Settings under an option for the delimiter. A settings file is settled by itself
before the options are looked at: its marker holds if it can be used beside the
delimiter of the file, or else gives way to the default one. The option then takes the
place of the delimiter, and the two are checked once more. So an option does what the
same delimiter in the file would do, but for one case: the marker is that of the file,
and it can be used beside one of the two delimiters and not beside the other. -/
namespace PostfixSheet

def FormatFault.subject : FormatFault → String
  | .delimiterText text | .markerBlank text | .markerNumber text | .markerDelimiter text _ => text

namespace Format

variable {marker other : String} {delimiter : Char} {fault : FormatFault}

theorem subject_of_checkMarker (refused : checkMarker marker delimiter = .error fault) :
    fault.subject = marker := by
  simp only [checkMarker] at refused
  split at refused
  · exact congrArg FormatFault.subject (Except.error.inj refused).symm
  · split at refused
    · exact congrArg FormatFault.subject (Except.error.inj refused).symm
    · split at refused
      · exact congrArg FormatFault.subject (Except.error.inj refused).symm
      · contradiction

/-- The format of a delimiter and a marker, if they can be used together. -/
def ofPair (delimiter : Char) (marker : String) : Except FormatFault Format := do
  checkMarker marker delimiter
  return { delimiter, marker }

/-- The marker of a format or, if it is refused, the one that is complained of. -/
def markerOf : Except FormatFault Format → String
  | .ok format => format.marker
  | .error fault => fault.subject

theorem markerOf_ofPair (delimiter : Char) (marker : String) :
    markerOf (ofPair delimiter marker) = marker := by
  cases checked : checkMarker marker delimiter with
  | ok => simp only [ofPair, checked, bind, Except.bind, pure, Except.pure, markerOf]
  | error fault =>
    simp only [ofPair, checked, bind, Except.bind, markerOf, subject_of_checkMarker checked]

theorem ofPair_eq_iff : ofPair delimiter marker = ofPair delimiter other ↔ marker = other := by
  constructor
  · intro same
    rw [← markerOf_ofPair delimiter marker, same, markerOf_ofPair]
  · rintro rfl
    rfl

end Format

namespace Settings.Requested

variable {requested : Requested} {text : String} {delimiter : Char}

/-- The settings have a marker of their own, and whether it can be used turns on which
delimiter it stands beside, the one that the settings hold or the one given here. -/
def HingesOn (requested : Requested) (delimiter : Char) : Prop :=
  ∃ marker, requested.marker = some marker ∧ marker ≠ defaultMarker ∧
    ¬(Format.checkMarker marker requested.heldDelimiter = .ok () ↔
      Format.checkMarker marker delimiter = .ok ())

theorem heldDelimiter_replaced (read : Format.readDelimiter text = .ok delimiter) :
    { requested with delimiter := some text }.heldDelimiter = delimiter := by
  simp only [heldDelimiter, Option.map_some, read]

theorem marker_replaced_iff (read : Format.readDelimiter text = .ok delimiter) :
    requested.format.marker = { requested with delimiter := some text }.format.marker ↔
      ¬requested.HingesOn delimiter := by
  simp only [format, usableMarker?, heldDelimiter_replaced read, HingesOn]
  cases requested.marker with
  | none => simp
  | some marker =>
    simp only [Option.filter_some, Option.some.injEq, exists_eq_left', ← isOk_iff]
    cases (Format.checkMarker marker requested.heldDelimiter).isOk <;>
      cases (Format.checkMarker marker delimiter).isOk <;> simp [eq_comm]

end Settings.Requested

namespace CommandLine

variable {arguments : Arguments} {format : Format} {text : String} {delimiter : Char}

theorem effectiveFormat_of_option (read : Format.readDelimiter text = .ok delimiter) :
    effectiveFormat { arguments with delimiter := some text } format =
      Format.ofPair delimiter (arguments.marker.getD format.marker) := by
  simp only [effectiveFormat, read, Format.ofPair]
  rfl

theorem effectiveFormat_of_none (noOption : arguments.delimiter = none) :
    effectiveFormat arguments format =
      Format.ofPair format.delimiter (arguments.marker.getD format.marker) := by
  simp only [effectiveFormat, noOption, Format.ofPair]
  rfl

theorem effectiveFormat_eq_replaced_iff (path : String) (requested : Settings.Requested)
    (read : Format.readDelimiter text = .ok delimiter) (noOption : arguments.delimiter = none) :
    effectiveFormat { arguments with delimiter := some text } (Settings.apply path requested).1 =
        effectiveFormat arguments
          (Settings.apply path { requested with delimiter := some text }).1 ↔
      arguments.marker.isSome ∨ ¬requested.HingesOn delimiter := by
  have replaced : { requested with delimiter := some text }.format.delimiter = delimiter :=
    Settings.Requested.heldDelimiter_replaced read
  rw [effectiveFormat_of_option read, effectiveFormat_of_none noOption, Settings.fst_apply,
    Settings.fst_apply, replaced, Format.ofPair_eq_iff]
  cases arguments.marker with
  | none =>
    simp only [Option.getD_none, Option.isSome_none, Bool.false_eq_true, false_or]
    exact Settings.Requested.marker_replaced_iff read
  | some marker => simp

/-- The option overrides the delimiter of the settings and nothing else. It comes to what
the settings come to with the delimiter replaced, unless their marker hinges on the
delimiter and no option stands in for it. This is so for any settings, and for runs on
two states of the files that a reader takes for settings that differ in the delimiter. -/
theorem override_iff (arguments : Arguments) (text : String)
    (read : Format.readDelimiter text = .ok delimiter) (noOption : arguments.delimiter = none) :
    let option := { arguments with delimiter := some text }
    (∀ path (requested : Settings.Requested),
        effectiveFormat option (Settings.apply path requested).1 =
            effectiveFormat arguments
              (Settings.apply path { requested with delimiter := some text }).1 ↔
          arguments.marker.isSome ∨ ¬requested.HingesOn delimiter) ∧
      ∀ user files replaced reader,
        stated arguments user replaced reader =
            { stated arguments user files reader with delimiter := some text } →
          (chosenFormat option user files reader = chosenFormat arguments user replaced reader ↔
              arguments.marker.isSome ∨ ¬(stated arguments user files reader).HingesOn delimiter) ∧
            (arguments.marker.isSome ∨ ¬(stated arguments user files reader).HingesOn delimiter →
              ∀ input fault,
                (run ⟨input, option⟩ user files reader).failure = some (.format fault) ↔
                  (run ⟨input, arguments⟩ user replaced reader).failure =
                    some (.format fault)) := by
  intro option
  refine ⟨fun path requested => effectiveFormat_eq_replaced_iff path requested read noOption, ?_⟩
  intro user files replaced reader differ
  have kept : stated option user files reader = stated arguments user files reader := rfl
  have law : chosenFormat option user files reader = chosenFormat arguments user replaced reader ↔
      arguments.marker.isSome ∨ ¬(stated arguments user files reader).HingesOn delimiter := by
    have alike :=
      effectiveFormat_eq_replaced_iff "" (stated arguments user files reader) read noOption
    rw [Settings.fst_apply, Settings.fst_apply] at alike
    rwa [chosenFormat, chosenFormat, fst_settingsFormat, fst_settingsFormat, differ, kept]
  refine ⟨law, fun settled input fault => ?_⟩
  have same := law.mpr settled
  rw [chosenFormat, chosenFormat] at same
  rw [failure_run_eq_format_iff, failure_run_eq_format_iff, same]

/-- The marker `a,b` of a file with the delimiter `;` goes with `|` as well, and it does
not go with a comma. -/
theorem override_iff_three_delimiters :
    let marker := "error_marker = 'a,b'\n"
    let files (text : String) : FileSystem := { entries := fun place =>
      [(["c.toml"], Entry.file (.ofText (marker ++ "delimiter = " ++ text)))].lookup place }
    let reader : Settings.Reader := Settings.Requested.parse?
    let arguments : Arguments := { settings := some "c.toml" }
    chosenFormat { arguments with delimiter := some "|" } none (files "';'\n") reader =
        chosenFormat arguments none (files "'|'\n") reader ∧
      chosenFormat { arguments with delimiter := some "," } none (files "';'\n") reader ≠
        chosenFormat arguments none (files "','\n") reader := by
  intro marker files reader arguments
  have asked : stated arguments none (files "';'\n") reader = ⟨some ";", some "a,b"⟩ := by
    decide +kernel
  have barred : stated arguments none (files "'|'\n") reader = ⟨some "|", some "a,b"⟩ := by
    decide +kernel
  have comma : stated arguments none (files "','\n") reader = ⟨some ",", some "a,b"⟩ := by
    decide +kernel
  have besideBar : ¬(stated arguments none (files "';'\n") reader).HingesOn '|' := by
    rw [asked]
    rintro ⟨_, ⟨⟩, _, hinges⟩
    exact hinges (by decide +kernel)
  have besideComma : (stated arguments none (files "';'\n") reader).HingesOn ',' := by
    rw [asked]
    exact ⟨"a,b", rfl, by decide, by decide +kernel⟩
  have barDiffers : stated arguments none (files "'|'\n") reader =
      { stated arguments none (files "';'\n") reader with delimiter := some "|" } := by
    rw [barred, asked]
  have commaDiffers : stated arguments none (files "','\n") reader =
      { stated arguments none (files "';'\n") reader with delimiter := some "," } := by
    rw [comma, asked]
  have readBar : Format.readDelimiter "|" = .ok '|' := by decide
  have readComma : Format.readDelimiter "," = .ok ',' := by decide
  have bar := (override_iff arguments "|" readBar rfl).2 none _ _ reader barDiffers
  have overruled := (override_iff arguments "," readComma rfl).2 none _ _ reader commaDiffers
  refine ⟨bar.1.mpr (.inr besideBar), fun same => ?_⟩
  rcases overruled.1.mp same with marked | apart
  · contradiction
  · exact apart besideComma

/-- An option for the delimiter is not the same as the delimiter in the file: the marker of
the file was settled beside the delimiter of the file. So it may have given way although it
goes with the option, or stand although it does not, and then the run is refused. -/
theorem override_ne_replacement :
    (¬∀ (arguments : Arguments) (requested : Settings.Requested) (path text : String)
        (delimiter : Char), Format.readDelimiter text = .ok delimiter →
        arguments.delimiter = none →
        effectiveFormat { arguments with delimiter := some text }
            (Settings.apply path requested).1 =
          effectiveFormat arguments
            (Settings.apply path { requested with delimiter := some text }).1) ∧
      let files (text : String) : FileSystem := { entries := fun place =>
        [(["c.toml"], Entry.file (.ofText text))].lookup place }
      let reader : Settings.Reader := Settings.Requested.parse?
      let arguments : Arguments := { settings := some "c.toml" }
      let option : Arguments := { arguments with delimiter := some ";" }
      chosenFormat option none (files "error_marker = 'a,b'\n") reader = .ok ⟨';', "#ERR"⟩ ∧
        chosenFormat arguments none (files "error_marker = 'a,b'\ndelimiter = ';'\n") reader =
          .ok ⟨';', "a,b"⟩ ∧
        chosenFormat option none (files "error_marker = 'a;b'\n") reader =
          .error (.markerDelimiter "a;b" ';') ∧
        chosenFormat arguments none (files "error_marker = 'a;b'\ndelimiter = ';'\n") reader =
          .ok ⟨';', "#ERR"⟩ := by
  refine ⟨fun same => ?_, ?_, ?_, ?_, ?_⟩
  · exact absurd (same {} ⟨none, some "a,b"⟩ "c.toml" ";" ';' rfl rfl) (by decide +kernel)
  all_goals decide +kernel

end CommandLine

end PostfixSheet
