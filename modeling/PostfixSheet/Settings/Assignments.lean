/-! Files of assignments: the part of TOML in which every line gives a string to
a key. A key is a run of letters, digits, underscores and hyphens or a quoted
string; a string stands between single or double quotes, one or three of each,
and escapes count only between double quotes. Blank lines, comments and a byte
order mark at the start are allowed. All other TOML is refused, and so is a key
that is given twice. -/
namespace PostfixSheet.Assignments

/-- What is left of the text after a value was read. -/
abbrev Reader (α : Type) := List Char → Option (α × List Char)

def isSpace (char : Char) : Bool := char == ' ' || char == '\t'

/-- Characters of comments and literal strings: everything but controls. -/
def isContent (char : Char) : Bool := char == '\t' || 0x20 ≤ char.toNat && char.toNat != 0x7F

def isBareKey (char : Char) : Bool := char.isAlphanum || char == '_' || char == '-'

def skipSpace (text : List Char) : List Char := text.dropWhile isSpace

def newline? : List Char → Option (List Char)
  | '\n' :: rest => some rest
  | '\r' :: '\n' :: rest => some rest
  | _ => none

def hexDigit? (char : Char) : Option Nat :=
  if char.isDigit then some (char.toNat - '0'.toNat)
  else if 'a' ≤ char ∧ char ≤ 'f' then some (char.toNat - 'a'.toNat + 10)
  else if 'A' ≤ char ∧ char ≤ 'F' then some (char.toNat - 'A'.toNat + 10)
  else none

def numbered? (digits : List Char) : Option Char := do
  let number ← digits.foldlM (fun number digit => (hexDigit? digit).map (16 * number + ·)) 0
  if number.isValidChar then some (Char.ofNat number) else none

def fixedWidth (width : Nat) : Reader Char := fun text =>
  if width ≤ text.length then (numbered? (text.take width)).map fun char => (char, text.drop width)
  else none

/-- What stands after a backslash. -/
def escape? : Reader Char
  | 'b' :: rest => some ('\x08', rest)
  | 't' :: rest => some ('\t', rest)
  | 'n' :: rest => some ('\n', rest)
  | 'f' :: rest => some ('\x0c', rest)
  | 'r' :: rest => some ('\r', rest)
  | '"' :: rest => some ('"', rest)
  | '\\' :: rest => some ('\\', rest)
  | 'u' :: rest => fixedWidth 4 rest
  | 'U' :: rest => fixedWidth 8 rest
  | _ => none

theorem length_fixedWidth {width : Nat} {text rest : List Char} {char : Char}
    (read : fixedWidth width text = some (char, rest)) : rest.length ≤ text.length := by
  unfold fixedWidth at read
  split at read
  · obtain ⟨_, _, same⟩ := Option.map_eq_some_iff.mp read
    cases same
    simp
  · cases read

theorem length_escape? {text rest : List Char} {char : Char} (read : escape? text = some (char, rest)) :
    rest.length < text.length := by
  unfold escape? at read
  split at read
  all_goals
    first
    | (cases read <;> simp)
    | exact Nat.lt_succ_of_le (length_fixedWidth read)

/-- The characters up to the closing double quote, added to those read so far. -/
def basic (read : List Char) : Reader (List Char)
  | [] => none
  | '"' :: rest => some (read.reverse, rest)
  | '\\' :: text =>
      match _found : escape? text with
      | some (char, rest) => basic (char :: read) rest
      | none => none
  | char :: rest => if isContent char then basic (char :: read) rest else none
termination_by text => text.length
decreasing_by
  · have := length_escape? ‹_›
    simp only [List.length_cons]
    omega
  · simp

def literal (read : List Char) : Reader (List Char)
  | [] => none
  | '\'' :: rest => some (read.reverse, rest)
  | char :: rest => if isContent char then literal (char :: read) rest else none

/-- The characters up to three closing quotes, which up to two more may precede.
After a backslash at the end of a line, `skipping` leaves out all space up to the
next character that is not. -/
def basicLines (skipping : Bool) (read : List Char) : Reader (List Char)
  | '"' :: '"' :: '"' :: '"' :: '"' :: rest => some (('"' :: '"' :: read).reverse, rest)
  | '"' :: '"' :: '"' :: '"' :: rest => some (('"' :: read).reverse, rest)
  | '"' :: '"' :: '"' :: rest => some (read.reverse, rest)
  | '\r' :: '\n' :: rest => basicLines skipping (if skipping then read else '\n' :: read) rest
  | '\n' :: rest => basicLines skipping (if skipping then read else '\n' :: read) rest
  | '\\' :: text =>
      if (newline? (skipSpace text)).isSome then basicLines true read text
      else match _found : escape? text with
        | some (char, rest) => basicLines false (char :: read) rest
        | none => none
  | char :: rest =>
      if skipping && isSpace char then basicLines true read rest
      else if isContent char then basicLines false (char :: read) rest
      else none
  | [] => none
termination_by text => text.length
decreasing_by
  all_goals try simp only [List.length_cons]
  all_goals try omega
  · have := length_escape? ‹_›
    omega

/-- The same between single quotes, without escapes. -/
def literalLines (read : List Char) : Reader (List Char)
  | '\'' :: '\'' :: '\'' :: '\'' :: '\'' :: rest => some (('\'' :: '\'' :: read).reverse, rest)
  | '\'' :: '\'' :: '\'' :: '\'' :: rest => some (('\'' :: read).reverse, rest)
  | '\'' :: '\'' :: '\'' :: rest => some (read.reverse, rest)
  | '\r' :: '\n' :: rest => literalLines ('\n' :: read) rest
  | '\n' :: rest => literalLines ('\n' :: read) rest
  | char :: rest => if isContent char then literalLines (char :: read) rest else none
  | [] => none

/-- A line ending right after the three opening quotes does not count. -/
def trimNewline (text : List Char) : List Char := (newline? text).getD text

def string : Reader (List Char)
  | '"' :: '"' :: '"' :: rest => basicLines false [] (trimNewline rest)
  | '\'' :: '\'' :: '\'' :: rest => literalLines [] (trimNewline rest)
  | '"' :: rest => basic [] rest
  | '\'' :: rest => literal [] rest
  | _ => none

def key : Reader (List Char)
  | '"' :: rest => basic [] rest
  | '\'' :: rest => literal [] rest
  | text =>
      let (name, rest) := text.span isBareKey
      if name.isEmpty then none else some (name, rest)

def endLine? (text : List Char) : Option (List Char) :=
  let afterComment := match skipSpace text with
    | '#' :: comment => comment.dropWhile isContent
    | other => other
  match afterComment with
  | [] => some []
  | other => newline? other

def assignment : Reader (String × String) := fun text => do
  let (name, text) ← key text
  match skipSpace text with
  | '=' :: text => do
    let (value, rest) ← string (skipSpace text)
    return ((String.ofList name, String.ofList value), rest)
  | _ => none

/-- One line: an assignment or nothing, an optional comment and the line's end. -/
def line : Reader (Option (String × String)) := fun text =>
  match endLine? text with
  | some rest => some (none, rest)
  | none => do
    let (entry, text) ← assignment (skipSpace text)
    return (some entry, ← endLine? text)

/-- Reads lines up to the end; `limit` bounds their number. -/
def linesUpTo (read : List (String × String)) : Nat → List Char → Option (List (String × String))
  | _, [] => some read.reverse
  | 0, _ => none
  | limit + 1, text => do
    match ← line text with
    | (none, rest) => linesUpTo read limit rest
    | (some entry, rest) =>
      if read.any (·.1 == entry.1) then none else linesUpTo (entry :: read) limit rest

/-- All assignments of a text, in order. A line holds at least its ending. -/
def parse? (text : String) : Option (List (String × String)) :=
  let chars := match text.toList with
    | '\uFEFF' :: rest => rest
    | other => other
  linesUpTo [] (chars.length + 1) chars

end PostfixSheet.Assignments
