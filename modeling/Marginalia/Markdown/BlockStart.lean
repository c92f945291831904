import Marginalia.Markdown.Line
import Marginalia.Markdown.Link
import Marginalia.Markdown.Tag

/-!
# Starts of blocks

What the first characters of a line say about the block that starts there. The
texts here are lines after the marks of their containers and their indentation.
-/

namespace Marginalia
namespace Markdown

/-! ## Leaf blocks -/

/-- Whether a line is a thematic break: three or more of one mark, with blanks
anywhere. -/
def isThematicBreak : Text → Bool
  | [] => false
  | mark :: rest =>
      (mark = '*' || mark = '-' || mark = '_') &&
        rest.all (fun c => c = mark || isIndentation c) &&
        2 ≤ (rest.filter (· = mark)).length

/-- The level of a heading that starts with number signs. -/
def headingLevel? (text : Text) : Option Nat :=
  let level := runLength '#' text
  let ends := ((text.drop level).head?.map isAsciiSpace).getD true
  if 1 ≤ level && level ≤ 6 && ends then some level else none

/-- The content of a heading after its number signs. Number signs at the end
are dropped if a space stands before them. -/
def headingContent (text : Text) : Text :=
  let content := Text.dropEndWhile (text.dropWhile isBlank) (· = ' ')
  let before := Text.dropEndWhile content (· = '#')
  if before.isEmpty || before.getLast? = some ' ' then
    Text.dropEndWhile before (· = ' ')
  else content

/-- The level of a heading that a line under a paragraph makes of it. -/
def underlineLevel? (text : Text) : Option Nat :=
  match text with
  | mark :: _ =>
      if isBlankLine (text.dropWhile (· = mark)) then
        if mark = '=' then some 1 else if mark = '-' then some 2 else none
      else none
  | [] => none

/-- The mark and the length of a code fence. After backticks there may be no
more backticks on the line. -/
def fence? (text : Text) : Option (Char × Nat) :=
  match text with
  | mark :: _ =>
      let length := runLength mark text
      if (mark = '\x60' && !(text.drop length).contains '\x60' || mark = '~') &&
          3 ≤ length then
        some (mark, length)
      else none
  | [] => none

def closesFence (mark : Char) (length : Nat) (text : Text) : Bool :=
  length ≤ runLength mark text &&
    (text.dropWhile (· = mark)).all (· = ' ')

/-! ## Containers -/

/-- The mark of a list item: its last character, the number of an ordered item
and its width. -/
structure ListMarker where
  mark : Char
  number : Nat
  width : Nat

namespace ListMarker

def isOrdered (mark : Char) : Bool := mark = '.' || mark = ')'

/-- The mark at the start of a line. A blank or the end of the line follows. -/
def ofText? (text : Text) : Option ListMarker :=
  let digits := text.takeWhile Char.isDigit
  let candidate? : Option ListMarker :=
    match text.drop digits.length, Text.readDigits? 10 digits with
    | mark :: _, none =>
        if mark = '-' || mark = '+' || mark = '*' then some ⟨mark, 0, 1⟩
        else none
    | mark :: _, some number =>
        if isOrdered mark && digits.length ≤ 9 then
          some ⟨mark, number, digits.length + 1⟩
        else none
    | [], _ => none
  candidate?.filter fun marker =>
    ((text.drop marker.width).head?.map isIndentation).getD true

/-- Whether an item can start in the middle of a paragraph: it is not empty,
and a numbered one starts at one. -/
def canInterrupt (marker : ListMarker) (text : Text) : Bool :=
  (!isOrdered marker.mark || marker.number = 1) &&
    !isBlankLine (text.drop marker.width)

end ListMarker

/-- The name of a footnote whose definition starts here, and the text after the
colon. -/
def footnoteStart? (text : Text) : Option (Text × Text) := do
  let inner ← Text.after? "[^" text
  let (name, afterName) ← footnoteLabel? inner
  let rest ← Text.after? ":" afterName
  some (name, rest)

/-! ## Interruption -/

/-- Whether a line ends the paragraph before it. A line outside the containers
of the paragraph, or after a table row, does so with any list item. -/
def interruptsParagraph (anyItem : Bool) (text : Text) : Bool :=
  text.isEmpty || isThematicBreak text || (headingLevel? text).isSome ||
    (fence? text).isSome || text.head? = some '>' ||
    (match ListMarker.ofText? text with
      | some marker => anyItem || marker.canInterrupt text
      | none => false) ||
    (match text with
      | '<' :: rest => (Tag.interruptingEnd? rest).isSome
      | _ => false) ||
    (footnoteStart? text).isSome

end Markdown
end Marginalia
