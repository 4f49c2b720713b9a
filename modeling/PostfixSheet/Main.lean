import PostfixSheet.CommandLine.Run

/-! The program. It looks at the files that the arguments and the settings name,
runs on what it saw, and carries out what the run left behind. -/
namespace PostfixSheet

def usage : String :=
  "Usage: " ++ CommandLine.programName ++ " [OPTIONS] <INPUT>\n\n" ++
  "Evaluates a delimited grid of postfix formulas.\n\n" ++
  "  -o, --output <FILE>        write the result to a file\n" ++
  "  -d, --delimiter <CHAR>     field delimiter (\",\" without settings)\n" ++
  "      --error-marker <TEXT>  text for cells in error (\"#ERR\" without settings)\n" ++
  "      --config <PATH>        read settings from this file\n" ++
  "      --no-config            read no settings\n" ++
  "      --order                print the evaluation order to standard error\n" ++
  "  -v, --verbose              report what was evaluated\n" ++
  "  -h, --help                 print this text\n" ++
  "  -V, --version              print the version\n"

/-- What stands at a place now. What cannot be read counts as absent. -/
def observe (place : Place) : IO (Option Entry) := do
  try
    let bytes ← IO.FS.readBinFile ("/" ++ "/".intercalate place)
    return some (.file { block := bytes })
  catch
    | .inappropriateType _ code _ => return if code = 21 then some .directory else none
    | _ => return none

/-- The places on the way to where a path leads. -/
def placesOf (files : FileSystem) (path : String) : List Place :=
  let components := FileSystem.components path
  (List.range (components.length + 1)).map fun count =>
    (components.take count).foldl FileSystem.follow (files.origin path)

/-- The state of the file system, as far as the paths show it. -/
def observeAll (paths : List String) : IO FileSystem := do
  let current := (← IO.currentDir).toString
  let workingDirectory := (FileSystem.components current).foldl FileSystem.follow []
  let mut files : FileSystem := { entries := fun _ => none, workingDirectory }
  for place in ((current :: paths).flatMap (placesOf files)).eraseDups do
    if let some entry ← observe place then
      files := files.put place entry
  return files

def execute (request : CommandLine.Request) : IO UInt32 := do
  let user := Settings.userPath? (← IO.getEnv "XDG_CONFIG_HOME") (← IO.getEnv "HOME")
  let arguments := request.arguments
  let settings := if arguments.noSettings then none else arguments.settings.or user
  let files ← observeAll (request.input :: (settings.toList ++ arguments.output.toList))
  let outcome := CommandLine.run request user files Settings.Requested.parse?
  if outcome.failure.isNone then
    if let some path := arguments.output then
      if let .ok (.file contents) := outcome.files.lookup path then
        IO.FS.writeBinFile path contents.bytes
  for report in CommandLine.reports request outcome do
    IO.eprintln report
  IO.print outcome.stdout
  return outcome.exitCode.toUInt32

end PostfixSheet

def main (arguments : List String) : IO UInt32 := do
  match PostfixSheet.CommandLine.parse arguments with
  | .ok request => PostfixSheet.execute request
  | .error .version => IO.print PostfixSheet.CommandLine.versionText; return 0
  | .error .help => IO.print PostfixSheet.usage; return 0
  | .error .usage => IO.eprint PostfixSheet.usage; return 2
