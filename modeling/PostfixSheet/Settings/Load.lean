import PostfixSheet.Delimited.Format
import PostfixSheet.Files.FileSystem
import PostfixSheet.Settings.Assignments

/-! The user's settings. A settings file may choose the delimiter and the error
marker; how it writes them is up to the reader of settings files, which may be any.
Whatever is wrong with the file is only warned of, and the format that holds without
the file stands in: a marker is taken over only if it goes with the delimiter that
holds then. -/
namespace PostfixSheet.Settings

/-- Greater settings files are not read. -/
def sizeLimit : Nat := 64 * 1024

inductive Warning where
  | missing (path : String)
  | unreadable (path : String) (fault : StorageFault)
  | unparsable (path : String)
  | refused (path : String) (fault : FormatFault)
deriving DecidableEq, Repr

namespace Warning

def message : Warning → String
  | .missing path => "Config file not found: " ++ path
  | .unreadable path (.io fault) => "Failed to read " ++ path ++ ": " ++ fault.message
  | .unreadable path (.tooLarge _ size limit) =>
      "Failed to read " ++ path ++ ": " ++ StorageFault.sizeText size limit
  | .unparsable path => "Failed to parse " ++ path
  | .refused path fault => path ++ ": " ++ fault.message

end Warning

structure Requested where
  delimiter : Option String := none
  marker : Option String := none
deriving DecidableEq, Repr

namespace Requested

/-- Refuses a key that is no setting. -/
def add? (requested : Requested) (entry : String × String) : Option Requested :=
  match entry.1 with
  | "delimiter" => some { requested with delimiter := some entry.2 }
  | "error_marker" => some { requested with marker := some entry.2 }
  | _ => none

def parse? (text : String) : Option Requested := do
  (← Assignments.parse? text).foldlM add? {}

end Requested

/-- Reads what the text of a settings file asks for, unless it makes no sense. -/
abbrev Reader := String → Option Requested

def applyDelimiter (path : String) (text : Option String) (format : Format) :
    Format × List Warning :=
  match text with
  | none => (format, [])
  | some text =>
    match Format.readDelimiter text with
    | .ok delimiter => ({ format with delimiter }, [])
    | .error fault => (format, [.refused path fault])

def applyMarker (path : String) (marker : Option String) (format : Format) :
    Format × List Warning :=
  match marker with
  | none => (format, [])
  | some marker =>
    match Format.checkMarker marker format.delimiter with
    | .ok () => ({ format with marker }, [])
    | .error fault => (format, [.refused path fault])

/-- Applies the delimiter first and then the marker. -/
def apply (path : String) (requested : Requested) : Format × List Warning :=
  let (format, delimiterWarnings) := applyDelimiter path requested.delimiter {}
  let (format, markerWarnings) := applyMarker path requested.marker format
  (format, delimiterWarnings ++ markerWarnings)

def loadFile (files : FileSystem) (path : String) (reader : Reader) : Format × List Warning :=
  match files.readText sizeLimit path with
  | .error fault => ({}, [.unreadable path fault])
  | .ok text =>
    match reader text with
    | none => ({}, [.unparsable path])
    | some requested => apply path requested

/-- Where the user's settings are, given the values of the two variables that
name the directory of all settings and the home directory. The first one counts
only as an absolute path. -/
def userPath? (settingsHome home : Option String) : Option String :=
  let directory := (settingsHome.filter FileSystem.isAbsolute).or (home.map (· ++ "/.config"))
  directory.map (· ++ "/rpngrid/config.toml")

/-- Loads the file that was asked for or else the user's own. Only a file that
was asked for is missed. -/
def load (files : FileSystem) (asked user : Option String)
    (reader : Reader := Requested.parse?) : Format × List Warning :=
  match asked.or user with
  | none => ({}, [])
  | some path =>
    if files.pathExists path then loadFile files path reader
    else ({}, if asked.isSome then [.missing path] else [])

end PostfixSheet.Settings
