/-! A state of the file system: what stands at each place. A path is read from
the root, or from a working directory if it does not start with a slash, one
component after the other; everything before the last component must be a
directory that exists. Paths and names have a greatest length, in bytes, and no
path holds the character zero. Looking something up changes nothing, and writing
changes one place only. -/
namespace PostfixSheet

/-- The bytes of a file: a block, repeated. A long file need not be built to know
its size. -/
structure Contents where
  block : ByteArray
  copies : Nat := 1
deriving Inhabited

namespace Contents

def ofText (text : String) : Contents := { block := text.toUTF8 }

def size (contents : Contents) : Nat := contents.block.size * contents.copies

def bytes (contents : Contents) : ByteArray :=
  contents.copies.fold (fun _ _ bytes => bytes ++ contents.block) ByteArray.empty

def text? (contents : Contents) : Option String := String.fromUTF8? contents.bytes

end Contents

inductive Entry where
  | directory
  | file (contents : Contents)

/-- The names on the way from the root. -/
abbrev Place := List String

inductive FileFault where
  | notFound
  | notDirectory
  | isDirectory
  | nameTooLong
  | zeroInPath
  | notText
deriving DecidableEq, Repr

namespace FileFault

def message : FileFault → String
  | .notFound => "No such file or directory (os error 2)"
  | .notDirectory => "Not a directory (os error 20)"
  | .isDirectory => "Is a directory (os error 21)"
  | .nameTooLong => "File name too long (os error 36)"
  | .zeroInPath => "file name contained an unexpected NUL byte"
  | .notText => "stream did not contain valid UTF-8"

end FileFault

inductive StorageFault where
  | io (fault : FileFault)
  | tooLarge (path : String) (size limit : Nat)
deriving DecidableEq, Repr

namespace StorageFault

def sizeText (size limit : Nat) : String :=
  "file too large (" ++ toString size ++ " bytes, max " ++ toString limit ++ ")"

def message : StorageFault → String
  | .io fault => "IO error: " ++ fault.message
  | .tooLarge path size limit => "Refusing to read " ++ path ++ ": " ++ sizeText size limit

/-- The message and, below it, that of what caused it. -/
def causes (fault : StorageFault) : List String :=
  match fault with
  | .io cause => [fault.message, cause.message]
  | .tooLarge .. => [fault.message]

end StorageFault

structure FileSystem where
  entries : Place → Option Entry
  workingDirectory : Place := []

namespace FileSystem

/-- The root is always there. -/
def entry? (files : FileSystem) (place : Place) : Option Entry :=
  if place = [] then some .directory else files.entries place

def put (files : FileSystem) (place : Place) (entry : Entry) : FileSystem :=
  { files with entries := fun other => if other = place then some entry else files.entries other }

def nameLimit : Nat := 255

def pathLimit : Nat := 4095

def isAbsolute (path : String) : Bool := path.toList.head? == some '/'

def components (path : String) : List String := (path.toList.splitOn '/').map String.ofList

def origin (files : FileSystem) (path : String) : Place :=
  if isAbsolute path then [] else files.workingDirectory

/-- One component further. An empty component and a dot stay, two dots go back. -/
def follow (place : Place) (component : String) : Place :=
  if component = "" ∨ component = "." then place
  else if component = ".." then place.dropLast
  else place ++ [component]

/-- One component further, from a directory. -/
def enter (files : FileSystem) (place : Place) (component : String) : Except FileFault Place :=
  match files.entry? place with
  | some .directory =>
      if nameLimit < component.utf8ByteSize then .error .nameTooLong
      else .ok (follow place component)
  | some (.file _) => .error .notDirectory
  | none => .error .notFound

/-- Some components further, from where a path starts. -/
def walk (files : FileSystem) (path : String) (names : List String) : Except FileFault Place :=
  names.foldlM files.enter (files.origin path)

/-- What is wrong with a path before it is walked. -/
def checkPath (path : String) : Except FileFault Unit :=
  if path.toList.contains '\x00' then .error .zeroInPath
  else if path.isEmpty then .error .notFound
  else if pathLimit < path.utf8ByteSize then .error .nameTooLong
  else .ok ()

/-- The place that a path names, whether or not something stands there. -/
def locate (files : FileSystem) (path : String) : Except FileFault Place := do
  checkPath path
  files.walk path (components path)

def lookup (files : FileSystem) (path : String) : Except FileFault Entry := do
  match files.entry? (← files.locate path) with
  | some entry => return entry
  | none => .error .notFound

def pathExists (files : FileSystem) (path : String) : Bool := (files.lookup path).isOk

/-- The text of a file. The size is compared before anything is read. -/
def readText (files : FileSystem) (limit : Nat) (path : String) : Except StorageFault String :=
  match files.lookup path with
  | .error fault => .error (.io fault)
  | .ok .directory => .error (.io .isDirectory)
  | .ok (.file contents) =>
    if limit < contents.size then .error (.tooLarge path contents.size limit)
    else match contents.text? with
      | some text => .ok text
      | none => .error (.io .notText)

def trimSlashes (path : String) : String :=
  String.ofList (path.toList.reverse.dropWhile (· == '/')).reverse

/-- The place where a file is to be written. A slash at the end asks for a
directory, so no file can be written there, whatever stands there now; all that
counts before is whether the way to it exists. -/
def locateTarget (files : FileSystem) (path : String) : Except FileFault Place := do
  let trimmed := trimSlashes path
  if trimmed = path then files.locate path
  else do
    checkPath path
    let parent ← files.walk path (components trimmed).dropLast
    let _ ← files.enter parent "."
    .error .isDirectory

/-- Writes a file, over an older one if there is one. -/
def writeText (files : FileSystem) (path text : String) : Except StorageFault FileSystem :=
  match files.locateTarget path with
  | .error fault => .error (.io fault)
  | .ok place =>
    match files.entry? place with
    | some .directory => .error (.io .isDirectory)
    | _ => .ok (files.put place (.file (.ofText text)))

end FileSystem

end PostfixSheet
