import Marginalia.Markdown.Document
import Marginalia.Markdown.Line

/-!
# Tables

A table is a header row, a delimiter row that gives the alignment of each
column, and rows of cells. Pipes separate the cells, unless a backslash stands
before them.
-/

namespace Marginalia
namespace Markdown
namespace Table

/-! ## Delimiter rows -/

/-- What was read of a delimiter row: the columns, the latest first, and the
column being read. -/
structure DelimiterRow where
  columns : List Alignment
  current : Alignment
  isFresh : Bool
  hasHyphen : Bool
  sawPipe : Bool
  sawHyphen : Bool

namespace DelimiterRow

/-- A row of which nothing but an optional pipe was read. -/
def start (sawPipe : Bool) : DelimiterRow :=
  ⟨[], .unset, true, false, sawPipe, false⟩

/-- The alignment of a column after a colon in it. -/
def alignAtColon (isFresh : Bool) (current : Alignment) : Alignment :=
  match isFresh, current with
  | true, .unset => .left
  | false, .left => .center
  | false, .unset => .right
  | _, _ => current

/-- Read a character of a delimiter row. Every column before a pipe holds a
hyphen. -/
def add? (row : DelimiterRow) (c : Char) : Option DelimiterRow :=
  if c = ' ' then some row
  else if c = ':' then
    some { row with
      current := alignAtColon row.isFresh row.current, isFresh := false }
  else if c = '-' then
    some { row with isFresh := false, hasHyphen := true, sawHyphen := true }
  else if c = '|' && row.hasHyphen then
    some { row with
      columns := row.current :: row.columns, current := .unset
      isFresh := true, hasHyphen := false, sawPipe := true }
  else none

/-- The alignments of a row that was read to its end. -/
def finish? (row : DelimiterRow) : Option (List Alignment) :=
  let columns := if row.isFresh then row.columns else row.current :: row.columns
  if row.sawPipe && row.sawHyphen then some columns.reverse else none

end DelimiterRow

def alignments? (cursor : Cursor) : Option (List Alignment) :=
  let (columns, start) := cursor.skipUpTo 4
  if 4 ≤ columns then none
  else
    let (sawPipe, cells) :=
      match start.rest with
      | '|' :: rest => (true, rest)
      | text => (false, text)
    (cells.foldlM DelimiterRow.add? (DelimiterRow.start sawPipe)).bind
      DelimiterRow.finish?

/-! ## Cells -/

/-- The pieces of a row between pipes without a backslash before them. -/
def splitAtPipes (escaped : Bool) : Text → List Text
  | [] => [[]]
  | c :: rest =>
      match splitAtPipes (c = '\\') rest with
      | [] => [[c]]
      | piece :: pieces =>
          if c = '|' && !escaped then [] :: piece :: pieces
          else (c :: piece) :: pieces

/-- Drop the backslashes that protect pipes. -/
def unescapePipes : Text → Text
  | [] => []
  | c :: rest =>
      if c = '\\' && rest.head? = some '|' then unescapePipes rest
      else c :: unescapePipes rest

/-- The pieces of a row after an optional first pipe. What stands after the
last pipe counts if it is not blank. -/
def pieces (row : Text) : List Text :=
  let start := row.dropWhile isBlank
  let all := splitAtPipes false ((Text.after? "|" start).getD start)
  match all.getLast? with
  | some last => if isBlankLine last then all.dropLast else all
  | none => all

def cells (row : Text) : List Text :=
  (pieces row).map fun piece => unescapePipes (piece.dropWhile isBlank)

/-- Fill up or cut a row to a number of cells. -/
def fit (width : Nat) (row : List Text) : List Text :=
  row.take width ++ List.replicate (width - row.length) []

/-- Whether a line can be the header row over columns of these alignments. -/
def isHeader (alignments : List Alignment) (row : Text) : Bool :=
  (splitAtPipes false row).length > 1 &&
    (pieces row).length = alignments.length &&
    ((row.reverse.takeWhile (· = '\\')).length % 2 = 0)

end Table
end Markdown
end Marginalia
