import Marginalia.Text.CodePoint

/-!
# White space

The white space characters, and removing them at the ends of a text.
-/

namespace Marginalia

/-- The code points of white space, in increasing order. -/
def whiteSpaceRanges : CodePointRanges :=
  [(0x9, 0xD), (0x20, 0x20), (0x85, 0x85), (0xA0, 0xA0), (0x1680, 0x1680),
   (0x2000, 0x200A), (0x2028, 0x2029), (0x202F, 0x202F), (0x205F, 0x205F),
   (0x3000, 0x3000)]

def isWhiteSpace (c : Char) : Bool :=
  whiteSpaceRanges.contains c

namespace Text

def trimStart (text : Text) : Text :=
  text.dropWhile isWhiteSpace

def trimEnd (text : Text) : Text :=
  text.dropEndWhile isWhiteSpace

def trim (text : Text) : Text :=
  text.trimStart.trimEnd

end Text

end Marginalia
