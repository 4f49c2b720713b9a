import PostfixSheet.Text.Printable
import PostfixSheet.Text.ExtendingMark

/-! Quoted text in messages. The quote of its own kind, the backslash and four
control characters are written with a backslash and a letter; every character
that does not print by itself is written by its number, and so is one that would
join the character before it; all others stand for themselves. -/
namespace PostfixSheet.Text

def quoteChar (quote char : Char) : List Char :=
  if char = '\x00' then ['\\', '0']
  else if char = '\t' then ['\\', 't']
  else if char = '\r' then ['\\', 'r']
  else if char = '\n' then ['\\', 'n']
  else if char = '\\' ∨ char = quote then ['\\', char]
  else if isExtendingMark char || !isPrintable char then
    ['\\', 'u', '\x7b'] ++ Nat.toDigits 16 char.toNat ++ ['\x7d']
  else [char]

def quoteWith (quote : Char) (text : List Char) : String :=
  String.ofList (quote :: (text.flatMap (quoteChar quote) ++ [quote]))

/-- A text between double quotes. -/
def quoted (text : String) : String := quoteWith '"' text.toList

def quotedChar (char : Char) : String := quoteWith '\'' [char]

end PostfixSheet.Text
