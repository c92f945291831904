import Marginalia.Text.Basic

/-!
# Characters of Markdown

The ASCII classes that the rules of Markdown speak of.
-/

namespace Marginalia
namespace Markdown

/-- A blank inside a line: space, tab, vertical tab or form feed. -/
def isBlank (c : Char) : Bool :=
  c = ' ' || c = '\t' || c = '\x0b' || c = '\x0c'

def isLineEnd (c : Char) : Bool := c = '\n' || c = '\r'

/-- A blank or a line end. -/
def isAsciiSpace (c : Char) : Bool := isBlank c || isLineEnd c

/-- Punctuation that a backslash can escape. -/
def isAsciiPunctuation (c : Char) : Bool :=
  ('!' ≤ c && c ≤ '/') || (':' ≤ c && c ≤ '@') || ('[' ≤ c && c ≤ '\x60') ||
    ('\x7b' ≤ c && c ≤ '~')

/-- Whether a line, or what is left of it, holds blanks only. -/
def isBlankLine (text : Text) : Bool := text.all isBlank

/-- Indentation is made of spaces and tabs. -/
def isIndentation (c : Char) : Bool := c = ' ' || c = '\t'

/-- The length of the run of a character at the start of a text. -/
def runLength (c : Char) (text : Text) : Nat :=
  (text.takeWhile (· = c)).length

end Markdown
end Marginalia
