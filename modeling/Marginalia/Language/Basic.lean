import Marginalia.Text.WhiteSpace
import Marginalia.Text.WordCharacter

/-!
# Languages

A language is known by its name, the symbol that starts a line comment and its
file extensions. The symbol decides which lines are comments, which of them
are header lines, and what the divider between two code blocks looks like.
-/

namespace Marginalia

/-- A language with its comment symbol. -/
structure Language where
  name : Text
  symbol : Text
  extensions : List Text
  deriving DecidableEq

namespace Language

/-! ## Comment lines -/

/-- What follows each possible indent of a line, the longest indent first. -/
def afterIndents : Text → List Text
  | [] => [[]]
  | c :: rest =>
      if isWhiteSpace c then afterIndents rest ++ [c :: rest]
      else [c :: rest]

/-- Drop one white space character. -/
def dropOneSpace : Text → Text
  | [] => []
  | c :: rest => if isWhiteSpace c then rest else c :: rest

/-- The text of a comment line: what follows the symbol and one space. -/
def commentText? (language : Language) (line : Text) : Option Text :=
  (afterIndents line).findSome? fun unindented =>
    (Text.after? language.symbol unindented).map dropOneSpace

def isComment (language : Language) (line : Text) : Bool :=
  (language.commentText? line).isSome

/-- A comment line without its symbol; any other line as it is. -/
def stripComment (language : Language) (line : Text) : Text :=
  (language.commentText? line).getD line

/-! ## Header lines -/

/-- Read `Key: value`. The key is a word, and the value stays on one line and
has no white space around it. -/
def headerEntry? (text : Text) : Option (Text × Text) :=
  let key := text.takeWhile isWordCharacter
  match key, text.dropWhile isWordCharacter with
  | _ :: _, ':' :: rest =>
      let value := Text.trimStart rest
      if value.contains '\n' then none else some (key, value.trimEnd)
  | _, _ => none

/-- The key and value of a header line: a comment line that reads
`Key: value`. -/
def headerLine? (language : Language) (line : Text) : Option (Text × Text) :=
  (afterIndents line).findSome? fun unindented =>
    (Text.after? language.symbol unindented).bind fun rest =>
      headerEntry? rest.trimStart

/-! ## Dividers -/

/-- The word that follows the comment symbol on a divider line. -/
def dividerWord : Text := ['D', 'I', 'V', 'I', 'D', 'E', 'R']

/-- A divider line without its line ends. -/
def dividerLine (language : Language) : Text :=
  language.symbol ++ dividerWord

/-- What stands between two code blocks that are highlighted as one. -/
def dividerText (language : Language) : Text :=
  ['\n'] ++ language.dividerLine ++ ['\n']

end Language

end Marginalia
