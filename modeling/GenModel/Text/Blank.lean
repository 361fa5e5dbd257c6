import GenModel.Text.Span
import GenModel.Text.Split

/-!
# Blank characters

The characters with the property White_Space separate the tokens of a line. Characters that are
invisible without that property, such as the zero width space, are ordinary ones.
-/

namespace GenModel

namespace Text

/-- The code points with the property White_Space. -/
def blankSpans : List Span :=
  [
    ⟨0x09, 0x0D, 1⟩, ⟨0x20, 0x20, 1⟩, ⟨0x85, 0x85, 1⟩, ⟨0xA0, 0xA0, 1⟩, ⟨0x1680, 0x1680, 1⟩,
    ⟨0x2000, 0x200A, 1⟩, ⟨0x2028, 0x2029, 1⟩, ⟨0x202F, 0x202F, 1⟩, ⟨0x205F, 0x205F, 1⟩,
    ⟨0x3000, 0x3000, 1⟩
  ]

/-- Whether the character is blank. -/
def isBlank (c : Char) : Bool :=
  inSpans blankSpans c.toNat

/-- The tokens of a text: its longest parts without blank characters. -/
def tokens (text : String) : List String :=
  tokensBy isBlank text

end Text

end GenModel
