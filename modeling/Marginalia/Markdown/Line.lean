import Marginalia.Markdown.Character

/-!
# Lines

A document is read line by line. A cursor is a place in a line: it counts
columns, so that a tab reaches to the next tab stop and can be used up one
column at a time.
-/

namespace Marginalia
namespace Markdown

/-- A line with the text that ends it. The last line may have no end. -/
structure Line where
  text : Text
  lineEnd : Text
deriving Inhabited, DecidableEq

namespace Line

/-- Put a character in front of the first of some lines. -/
def push (c : Char) : List Line → List Line
  | [] => [⟨[c], []⟩]
  | line :: lines => ⟨c :: line.text, line.lineEnd⟩ :: lines

/-- The lines of a text. A line ends with a line feed, a carriage return or
both; a carriage return before a line feed is dropped. -/
def ofText : Text → List Line
  | [] => []
  | '\r' :: '\n' :: rest => ⟨[], ['\n']⟩ :: ofText rest
  | c :: rest =>
      if isLineEnd c then ⟨[], [c]⟩ :: ofText rest else push c (ofText rest)

end Line

/-- A place in a line: the columns since the last tab stop, the columns left
of a tab that was entered, and the text that follows. -/
structure Cursor where
  column : Nat
  spaces : Nat
  rest : Text
deriving Inhabited

namespace Cursor

def ofLine (line : Line) : Cursor := ⟨0, 0, line.text⟩

/-- Enter blanks for at most some columns. The answer holds the number of
columns that were missing. -/
def enterSpaces : Nat → Nat → Text → Nat → Nat × Cursor
  | column, spaces, rest, 0 => (0, ⟨column, spaces, rest⟩)
  | column, spaces, [], wanted => (wanted - spaces, ⟨column, spaces - wanted, []⟩)
  | column, spaces, c :: rest, wanted =>
      let left := wanted - spaces
      if left = 0 then (0, ⟨column, spaces - wanted, c :: rest⟩)
      else if c = ' ' then enterSpaces (column + 1) 0 rest (left - 1)
      else if c = '\t' then enterSpaces 0 (4 - column % 4) rest left
      else (left, ⟨column, 0, c :: rest⟩)

/-- Skip blanks for at most some columns and count the columns skipped. -/
def skipUpTo (limit : Nat) (cursor : Cursor) : Nat × Cursor :=
  let (missing, after) :=
    enterSpaces cursor.column cursor.spaces cursor.rest limit
  (limit - missing, after)

def skipAll (cursor : Cursor) : Cursor :=
  ⟨cursor.column, 0, cursor.rest.dropWhile isIndentation⟩

def advance (count : Nat) (cursor : Cursor) : Cursor :=
  ⟨cursor.column + count, 0, cursor.rest.drop count⟩

def accept? (c : Char) (cursor : Cursor) : Option Cursor :=
  match cursor.rest with
  | first :: rest =>
      if first = c then some ⟨cursor.column + 1, cursor.spaces, rest⟩ else none
  | [] => none

def atEnd (cursor : Cursor) : Bool := cursor.rest.isEmpty

def isBlank (cursor : Cursor) : Bool := isBlankLine cursor.rest

/-- What is left of the line, the rest of an entered tab as spaces. -/
def remaining (cursor : Cursor) : Text :=
  List.replicate cursor.spaces ' ' ++ cursor.rest

end Cursor

end Markdown
end Marginalia
