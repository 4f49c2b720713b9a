import PostfixSheet.CommandLine.Arguments
import PostfixSheet.Settings.Load
import PostfixSheet.Document

/-! A run of the program on a state of the file system. The settings file is read
first, then the options override it, and the format that results is checked as a
whole before the input is opened. Nothing is written unless everything before it
went well. -/
namespace PostfixSheet.CommandLine

def programName : String := "rpngrid"

def versionText : String := programName ++ " 0.1.0\n"

inductive Failure where
  | format (fault : FormatFault)
  | load (path : String) (fault : StorageFault)
  | write (path : String) (fault : StorageFault)
deriving DecidableEq, Repr

namespace Failure

def causes : Failure → List String
  | .format fault => [fault.message]
  | .load path fault => ("Failed to load " ++ path) :: fault.causes
  | .write path fault => ("Failed to write " ++ path) :: fault.causes

def report (failure : Failure) : String := "Error: " ++ ": ".intercalate failure.causes

end Failure

structure Outcome where
  files : FileSystem
  stdout : String := ""
  warnings : List Settings.Warning := []
  /-- The evaluation order, if it was asked for and reached. -/
  order : List Address := []
  summary : Option Summary := none
  failure : Option Failure := none

namespace Outcome

def exitCode (outcome : Outcome) : Nat := if outcome.failure.isSome then 1 else 0

end Outcome

/-- The reports for standard error, in the order in which a run comes to them. What
was evaluated and written is reported only to those who ask for more. -/
def reports (request : Request) (outcome : Outcome) : List String :=
  let inform (text : String) := if 1 ≤ request.arguments.verbosity then ["INFO " ++ text] else []
  let evaluated (summary : Summary) := inform ("evaluation complete " ++ summary.text)
  let written (path : String) (summary : Summary) :=
    inform ("wrote output path=" ++ path ++ " " ++ summary.text)
  outcome.warnings.map (fun warning => "WARN " ++ warning.message) ++
    (outcome.summary.map evaluated).getD [] ++
    outcome.order.map Address.text ++
    match outcome.failure, request.arguments.output, outcome.summary with
    | some failure, _, _ => [failure.report]
    | none, some path, some summary => written path summary
    | none, _, _ => []

/-- The format that the settings give, without the options. -/
def settingsFormat (arguments : Arguments) (userSettings : Option String) (files : FileSystem)
    (reader : Settings.Reader) : Format × List Settings.Warning :=
  if arguments.noSettings then ({}, [])
  else Settings.load files arguments.settings userSettings reader

/-- Puts the options over a format and checks what results. -/
def effectiveFormat (arguments : Arguments) (format : Format) : Except FormatFault Format := do
  let delimiter ← match arguments.delimiter with
    | none => pure format.delimiter
    | some text => Format.readDelimiter text
  let marker := arguments.marker.getD format.marker
  Format.checkMarker marker delimiter
  return { delimiter, marker }

def emit (outcome : Outcome) (output : Option String) (document : Document) (format : Format) :
    Outcome :=
  match output with
  | none => { outcome with stdout := document.render format }
  | some path =>
    match document.writeFile outcome.files path format with
    | .ok files => { outcome with files }
    | .error fault => { outcome with failure := some (.write path fault) }

/-- Runs a request. The user's settings are looked for at a path of their own. -/
def run (request : Request) (userSettings : Option String) (files : FileSystem)
    (reader : Settings.Reader := Settings.Requested.parse?) : Outcome :=
  let arguments := request.arguments
  let (format, warnings) := settingsFormat arguments userSettings files reader
  match effectiveFormat arguments format with
  | .error fault => { files, warnings, failure := some (.format fault) }
  | .ok format =>
    match Document.ofFile files request.input format.delimiter with
    | .error fault => { files, warnings, failure := some (.load request.input fault) }
    | .ok loaded =>
      let (document, summary) := loaded.evaluate
      let order := if arguments.order then document.order else []
      emit { files, warnings, order, summary := some summary } arguments.output document format

end PostfixSheet.CommandLine
