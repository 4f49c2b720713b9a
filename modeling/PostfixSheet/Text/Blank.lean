import PostfixSheet.Text.CodeRange

/-! Blank characters and the words between them. Blank is the Unicode property
White_Space: twenty-five characters. The information separators U+001C to
U+001F and the zero-width characters do not have the property. -/
namespace PostfixSheet.Text

def blankRanges : List CodeRange :=
  [⟨0x09, 0x0D⟩, ⟨0x20, 0x20⟩, ⟨0x85, 0x85⟩, ⟨0xA0, 0xA0⟩, ⟨0x1680, 0x1680⟩, ⟨0x2000, 0x200A⟩,
    ⟨0x2028, 0x2029⟩, ⟨0x202F, 0x202F⟩, ⟨0x205F, 0x205F⟩, ⟨0x3000, 0x3000⟩]

def isBlank (char : Char) : Bool := inRanges blankRanges char

/-- The maximal runs of characters that are not blank, in order. -/
def words (text : List Char) : List (List Char) :=
  (text.splitOnP isBlank).filter (!·.isEmpty)

end PostfixSheet.Text
