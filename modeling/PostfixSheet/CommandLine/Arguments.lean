/-! Command-line arguments. They are read from left to right, and the first one
that is wrong or asks for information ends the reading. A long option has its
value behind an equals sign or as the next argument; short options may be run
together, and the last of them may have its value attached, behind an equals sign
or not, or as the next argument. A next argument that itself looks like an option
is no value. After two hyphens every argument is an input. Only the option for
more output may be repeated, and no path may be empty. -/
namespace PostfixSheet.CommandLine

/-- Options without a value. -/
inductive Switch where
  | noSettings
  | order
  | verbose
  | version
  | help
deriving DecidableEq, Repr

/-- Options with a value. -/
inductive Setting where
  | output
  | delimiter
  | marker
  | settings
deriving DecidableEq, Repr

inductive Name where
  | switch (switch : Switch)
  | setting (setting : Setting)
deriving DecidableEq, Repr

def longName? (name : String) : Option Name :=
  match name with
  | "output" => some (.setting .output)
  | "delimiter" => some (.setting .delimiter)
  | "error-marker" => some (.setting .marker)
  | "config" => some (.setting .settings)
  | "no-config" => some (.switch .noSettings)
  | "order" => some (.switch .order)
  | "verbose" => some (.switch .verbose)
  | "version" => some (.switch .version)
  | "help" => some (.switch .help)
  | _ => none

def shortName? : Char → Option Name
  | 'o' => some (.setting .output)
  | 'd' => some (.setting .delimiter)
  | 'v' => some (.switch .verbose)
  | 'V' => some (.switch .version)
  | 'h' => some (.switch .help)
  | _ => none

/-- What the arguments say; before the end of the reading, what they said so far. -/
structure Arguments where
  input : Option String := none
  output : Option String := none
  delimiter : Option String := none
  marker : Option String := none
  settings : Option String := none
  noSettings : Bool := false
  order : Bool := false
  verbosity : Nat := 0
deriving DecidableEq, Repr

/-- Why no run follows. -/
inductive Stop where
  | usage
  | version
  | help
deriving DecidableEq, Repr

namespace Arguments

def fill (place : Option String) (value : String) : Except Stop (Option String) :=
  if place.isSome then .error .usage else .ok (some value)

def fillPath (place : Option String) (path : String) : Except Stop (Option String) :=
  if path.isEmpty then .error .usage else fill place path

def addInput (arguments : Arguments) (path : String) : Except Stop Arguments := do
  return { arguments with input := ← fillPath arguments.input path }

def addSwitch (arguments : Arguments) : Switch → Except Stop Arguments
  | .noSettings =>
      if arguments.noSettings then .error .usage else .ok { arguments with noSettings := true }
  | .order => if arguments.order then .error .usage else .ok { arguments with order := true }
  | .verbose => .ok { arguments with verbosity := arguments.verbosity + 1 }
  | .version => .error .version
  | .help => .error .help

def addSetting (arguments : Arguments) (value : String) : Setting → Except Stop Arguments
  | .output => do return { arguments with output := ← fillPath arguments.output value }
  | .delimiter => do return { arguments with delimiter := ← fill arguments.delimiter value }
  | .marker => do return { arguments with marker := ← fill arguments.marker value }
  | .settings => do return { arguments with settings := ← fillPath arguments.settings value }

/-- Where reading stands after an argument: ready for the next one, or with a
setting that still waits for its value. -/
structure State where
  arguments : Arguments := {}
  awaiting : Option Setting := none
  /-- Two hyphens were read. -/
  inputsOnly : Bool := false
deriving DecidableEq, Repr

def readLong (arguments : Arguments) (text : List Char) : Except Stop State :=
  let (name, value) := text.span (· != '=')
  match longName? (String.ofList name), value with
  | some (.switch switch), [] => do return { arguments := ← arguments.addSwitch switch }
  | some (.setting setting), [] => .ok { arguments, awaiting := some setting }
  | some (.setting setting), _ :: value => do
      return { arguments := ← arguments.addSetting (String.ofList value) setting }
  | _, _ => .error .usage

/-- Short options run together, after the hyphen. -/
def readShort (arguments : Arguments) : List Char → Except Stop State
  | [] => .ok { arguments }
  | letter :: rest =>
    match shortName? letter with
    | some (.switch switch) => do readShort (← arguments.addSwitch switch) rest
    | some (.setting setting) =>
      match rest with
      | [] => .ok { arguments, awaiting := some setting }
      | '=' :: value => do
          return { arguments := ← arguments.addSetting (String.ofList value) setting }
      | value => do
          return { arguments := ← arguments.addSetting (String.ofList value) setting }
    | none => .error .usage

/-- More than a hyphen alone. -/
def looksLikeOption : List Char → Bool
  | '-' :: _ :: _ => true
  | _ => false

def readArgument (state : State) (argument : String) : Except Stop State :=
  match state.awaiting, state.inputsOnly, argument.toList with
  | some setting, _, text =>
      if looksLikeOption text then .error .usage
      else do return { arguments := ← state.arguments.addSetting argument setting }
  | none, true, _ => do return { state with arguments := ← state.arguments.addInput argument }
  | none, false, ['-', '-'] => .ok { state with inputsOnly := true }
  | none, false, '-' :: '-' :: text => readLong state.arguments text
  | none, false, '-' :: letter :: letters => readShort state.arguments (letter :: letters)
  | none, false, _ => do return { state with arguments := ← state.arguments.addInput argument }

end Arguments

structure Request where
  input : String
  arguments : Arguments
deriving DecidableEq, Repr

/-- Reads all arguments. There must be an input, and a settings file cannot be
both named and ruled out. -/
def parse (texts : List String) : Except Stop Request := do
  let state ← texts.foldlM Arguments.readArgument {}
  match state.awaiting, state.arguments.input with
  | none, some input =>
    if state.arguments.noSettings && state.arguments.settings.isSome then .error .usage
    else return { input, arguments := state.arguments }
  | _, _ => .error .usage

end PostfixSheet.CommandLine
