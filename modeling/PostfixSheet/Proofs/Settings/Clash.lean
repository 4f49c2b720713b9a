import PostfixSheet.CommandLine.Run
import PostfixSheet.Proofs.Attempts

/-! Settings that stop a run. A settings file that is not there or makes no sense
counts as one that asks for nothing. Of any other, each setting holds if it can, a
marker beside the delimiter that holds by then. Only the default marker is not
checked beside a delimiter: settings that ask for one of its characters as the
delimiter, and for no marker that can be used beside it, come to a format that a run
refuses. This is all that a settings file can do to stop a run. -/
namespace PostfixSheet

namespace Settings

namespace Requested

/-- The delimiter that holds under the settings. -/
def heldDelimiter (requested : Requested) : Char :=
  match requested.delimiter.map Format.readDelimiter with
  | some (.ok delimiter) => delimiter
  | _ => defaultDelimiter

def usableMarker? (requested : Requested) : Option String :=
  requested.marker.filter fun marker => (Format.checkMarker marker requested.heldDelimiter).isOk

def format (requested : Requested) : Format :=
  { delimiter := requested.heldDelimiter, marker := requested.usableMarker?.getD defaultMarker }

/-- The settings ask for a character of the default marker as the delimiter, and for
no marker that can be used beside it. -/
structure Clash (requested : Requested) (delimiter : Char) : Prop where
  asked : requested.delimiter = some (String.singleton delimiter)
  inside : delimiter ∈ defaultMarker.toList
  unusable : ∀ marker, requested.marker = some marker →
    Format.checkMarker marker delimiter ≠ .ok ()

variable {requested : Requested} {delimiter : Char} {marker : String} {fault : FormatFault}

theorem heldDelimiter_cases (requested : Requested) :
    requested.heldDelimiter = defaultDelimiter ∨
      requested.delimiter = some (String.singleton requested.heldDelimiter) := by
  unfold heldDelimiter
  split
  next delimiter read =>
    obtain ⟨text, asked, read⟩ := Option.map_eq_some_iff.mp read
    obtain ⟨rfl, _⟩ := Format.readDelimiter_eq_ok_iff.mp read
    exact .inr asked
  next => exact .inl rfl

theorem usableMarker?_eq_some_iff :
    requested.usableMarker? = some marker ↔ requested.marker = some marker ∧
      Format.checkMarker marker requested.heldDelimiter = .ok () := by
  simp only [usableMarker?, Option.filter_eq_some_iff, isOk_iff]

theorem Clash.heldDelimiter_eq (clash : requested.Clash delimiter) :
    requested.heldDelimiter = delimiter := by
  have visible : (defaultMarker.toList.all fun char => !Text.isBlank char) = true := by decide
  have unblank : Text.isBlank delimiter = false := by
    simpa only [Bool.not_eq_true'] using List.all_eq_true.mp visible delimiter clash.inside
  have read : Format.readDelimiter (String.singleton delimiter) = .ok delimiter :=
    Format.readDelimiter_eq_ok_iff.mpr ⟨rfl, unblank⟩
  rw [heldDelimiter, clash.asked, Option.map_some, read]

theorem checkMarker_ne_ok_of_unusable (unusable : requested.usableMarker? = none)
    (asked : requested.marker = some marker) :
    Format.checkMarker marker requested.heldDelimiter ≠ .ok () := by
  intro usable
  rw [usableMarker?_eq_some_iff.mpr ⟨asked, usable⟩] at unusable
  contradiction

/-- The default marker does not contain the default delimiter, so that a delimiter
which it contains was asked for. -/
theorem clash_of_mem_defaultMarker (unusable : requested.usableMarker? = none)
    (inside : requested.heldDelimiter ∈ defaultMarker.toList) :
    requested.Clash requested.heldDelimiter where
  asked := (heldDelimiter_cases requested).resolve_left fun unasked => by
    rw [unasked] at inside
    contradiction
  inside := inside
  unusable _ := checkMarker_ne_ok_of_unusable unusable

/-- Only a clash makes the format of settings a faulty one. -/
theorem checkMarker_format_eq_error_iff :
    Format.checkMarker requested.format.marker requested.format.delimiter = .error fault ↔
      ∃ delimiter, requested.Clash delimiter ∧
        fault = .markerDelimiter defaultMarker delimiter := by
  cases chosen : requested.usableMarker? with
  | some marker =>
    obtain ⟨asked, usable⟩ := usableMarker?_eq_some_iff.mp chosen
    simp only [format, chosen, Option.getD_some, usable, reduceCtorEq, false_iff]
    rintro ⟨delimiter, clash, _⟩
    exact clash.unusable marker asked (clash.heldDelimiter_eq ▸ usable)
  | none =>
    simp only [format, chosen, Option.getD_none, Format.checkMarker_defaultMarker]
    constructor
    · intro refused
      split at refused
      next inside =>
        exact ⟨_, clash_of_mem_defaultMarker chosen inside, (Except.error.inj refused).symm⟩
      next => contradiction
    · rintro ⟨delimiter, clash, rfl⟩
      rw [clash.heldDelimiter_eq, if_pos clash.inside]

end Requested

theorem fst_apply (path : String) (requested : Requested) :
    (apply path requested).1 = requested.format := by
  obtain ⟨delimiter, marker⟩ := requested
  have held : (applyDelimiter path delimiter {}).1 =
      { delimiter := Requested.heldDelimiter ⟨delimiter, marker⟩ } := by
    cases delimiter with
    | none => rfl
    | some text =>
      simp only [applyDelimiter, Requested.heldDelimiter, Option.map_some]
      cases Format.readDelimiter text <;> rfl
  simp only [apply, held, Requested.format]
  cases marker with
  | none => rfl
  | some marker =>
    simp only [applyMarker, Requested.usableMarker?, Option.filter_some]
    cases Format.checkMarker marker _ <;> rfl

/-- What a settings file asks for: nothing if it cannot be read or makes no sense. -/
def stated (files : FileSystem) (asked user : Option String) (reader : Reader) : Requested :=
  ((asked.or user).bind fun path =>
    (files.readText sizeLimit path).toOption.bind reader).getD {}

theorem fst_loadFile (files : FileSystem) (path : String) (reader : Reader) :
    (loadFile files path reader).1 =
      (((files.readText sizeLimit path).toOption.bind reader).getD {}).format := by
  unfold loadFile
  cases files.readText sizeLimit path with
  | error fault => rfl
  | ok text =>
    simp only [Except.toOption, Option.bind_some]
    cases reader text with
    | none => rfl
    | some requested => exact fst_apply path requested

theorem toOption_readText_of_absent {files : FileSystem} {path : String}
    (absent : files.pathExists path = false) (limit : Nat) :
    (files.readText limit path).toOption = none := by
  unfold FileSystem.readText
  cases found : files.lookup path with
  | error fault => rfl
  | ok entry => simp [FileSystem.pathExists, found, Except.isOk, Except.toBool] at absent

theorem fst_load (files : FileSystem) (asked user : Option String) (reader : Reader) :
    (load files asked user reader).1 = (stated files asked user reader).format := by
  unfold load stated
  cases asked.or user with
  | none => rfl
  | some path =>
    simp only [Option.bind_some]
    split
    next => exact fst_loadFile files path reader
    next absent =>
      rw [toOption_readText_of_absent (Bool.eq_false_iff.mpr absent)]
      rfl

end Settings

namespace CommandLine

variable {request : Request} {user : Option String} {files : FileSystem}
  {reader : Settings.Reader} {fault : FormatFault}

/-- What the settings of a run ask for. -/
def stated (arguments : Arguments) (user : Option String) (files : FileSystem)
    (reader : Settings.Reader) : Settings.Requested :=
  if arguments.noSettings then {} else Settings.stated files arguments.settings user reader

theorem fst_settingsFormat (arguments : Arguments) :
    (settingsFormat arguments user files reader).1 =
      (stated arguments user files reader).format := by
  unfold settingsFormat stated
  split
  · rfl
  · exact Settings.fst_load ..

theorem failure_emit_ne_format {outcome : Outcome} {output : Option String} {document : Document}
    {format : Format} (clean : outcome.failure = none) :
    (emit outcome output document format).failure ≠ some (.format fault) := by
  unfold emit
  split
  · simp [clean]
  · split <;> simp [clean]

theorem failure_run_eq_format_iff :
    (run request user files reader).failure = some (.format fault) ↔
      effectiveFormat request.arguments (settingsFormat request.arguments user files reader).1 =
        .error fault := by
  simp only [run]
  cases effectiveFormat request.arguments (settingsFormat request.arguments user files reader).1 with
  | error fault => simp
  | ok format =>
    simp only [reduceCtorEq, iff_false]
    cases Document.ofFile files request.input format.delimiter with
    | error fault => simp
    | ok loaded => exact failure_emit_ne_format rfl

theorem effectiveFormat_eq_error_iff {arguments : Arguments} {format : Format}
    (noDelimiter : arguments.delimiter = none) (noMarker : arguments.marker = none) :
    effectiveFormat arguments format = .error fault ↔
      Format.checkMarker format.marker format.delimiter = .error fault := by
  simp only [effectiveFormat, noDelimiter, noMarker, Option.getD_none, pure_bind]
  cases Format.checkMarker format.marker format.delimiter <;>
    simp [bind, Except.bind, pure, Except.pure]

/-- Whatever settings ask for, the format that they come to is one that can be used, and
whatever a reader makes of the file, no run without options of its own stops because of
it, but for a clash. -/
theorem stopped_by_settings_iff (path : String) (requested : Settings.Requested)
    (noDelimiter : request.arguments.delimiter = none)
    (noMarker : request.arguments.marker = none) :
    let format := (Settings.apply path requested).1
    (Format.checkMarker format.marker format.delimiter = .error fault ↔
        ∃ delimiter, requested.Clash delimiter ∧
          fault = .markerDelimiter defaultMarker delimiter) ∧
      ((run request user files reader).failure = some (.format fault) ↔
        ∃ delimiter, (stated request.arguments user files reader).Clash delimiter ∧
          fault = .markerDelimiter defaultMarker delimiter) := by
  constructor
  · rw [Settings.fst_apply]
    exact Settings.Requested.checkMarker_format_eq_error_iff
  · rw [failure_run_eq_format_iff, effectiveFormat_eq_error_iff noDelimiter noMarker,
      fst_settingsFormat]
    exact Settings.Requested.checkMarker_format_eq_error_iff

/-- A delimiter from the default marker, beside a marker with a blank in it. -/
theorem stopped_by_settings_iff_blank_marker :
    let text := "delimiter = 'E'\nerror_marker = 'a b'\n"
    let files : FileSystem := { entries := fun place =>
      [(["in.csv"], Entry.file (.ofText "1\n")), (["c.toml"], .file (.ofText text))].lookup place }
    let reader : Settings.Reader := Settings.Requested.parse?
    (run ⟨"in.csv", { settings := some "c.toml" }⟩ none files reader).failure =
      some (.format (.markerDelimiter "#ERR" 'E')) := by
  intro text files reader
  have asked :
      stated { settings := some "c.toml" } none files reader = ⟨some "E", some "a b"⟩ := by
    decide +kernel
  have clash : Settings.Requested.Clash ⟨some "E", some "a b"⟩ 'E' := {
    asked := rfl
    inside := by decide
    unusable := by
      rintro _ ⟨⟩
      exact nofun }
  exact (stopped_by_settings_iff "c.toml" ⟨some "E", some "a b"⟩ rfl rfl).2.mpr
    ⟨'E', asked ▸ clash, rfl⟩

/-- Broken settings may stop a run: the marker passes for a number, is warned of and
gives way to the default one, which contains the delimiter. -/
theorem stopped_by_broken_settings :
    (¬∀ path requested, Format.checkMarker (Settings.apply path requested).1.marker
        (Settings.apply path requested).1.delimiter = .ok ()) ∧
      let text := "delimiter = \"#\"\nerror_marker = \"42\"\n"
      let files : FileSystem := { entries := fun place =>
        [(["in.csv"], Entry.file (.ofText "1\n")), (["xdg"], .directory),
          (["xdg", "rpngrid"], .directory),
          (["xdg", "rpngrid", "config.toml"], .file (.ofText text))].lookup place }
      let user := Settings.userPath? (some "/xdg") none
      let outcome := run ⟨"in.csv", {}⟩ user files Settings.Requested.parse?
      outcome.warnings = [.refused "/xdg/rpngrid/config.toml" (.markerNumber "42")] ∧
        outcome.failure = some (.format (.markerDelimiter "#ERR" '#')) := by
  refine ⟨fun usable => ?_, ?_, ?_⟩
  · exact nomatch usable "config.toml" ⟨some "#", some "42"⟩
  · decide +kernel
  · decide +kernel

end CommandLine

end PostfixSheet
