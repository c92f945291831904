import Marginalia.Text.Basic

/-!
# Lines

A line ends at a line feed, and a carriage return just before the line feed
belongs to the line end. Text after the last line feed is a line of its own
when there is any.
-/

namespace Marginalia.Text

/-- Drop one carriage return at the end. -/
def dropReturn (line : Text) : Text :=
  match line.reverse with
  | '\r' :: rest => rest.reverse
  | _ => line

/-- Cut lines off a text; `current` holds the line read so far, its last
character first. -/
def linesFrom (current : Text) : Text → List Text
  | [] => if current.isEmpty then [] else [current.reverse]
  | c :: rest =>
      if c = '\n' then dropReturn current.reverse :: linesFrom [] rest
      else linesFrom (c :: current) rest

/-- The lines of a text, without their line ends. -/
def lines (text : Text) : List Text :=
  linesFrom [] text

end Marginalia.Text
