import Marginalia.Markdown.Escape
import Marginalia.Text.CaseFold

/-!
# Links

The parts of a link: its label, its destination and its title. A link
definition gives a label its destination and its title; several definitions may
stand at the start of a paragraph.
-/

namespace Marginalia
namespace Markdown

/-! ## Labels -/

/-- Read a label up to its closing bracket. Runs of white space in it count as
one space. The answer holds the label and the text after the bracket. -/
def labelFrom? (label : Text) (escaped : Bool) : Text → Option (Text × Text)
  | [] => none
  | c :: rest =>
      if escaped then labelFrom? (c :: label) false rest
      else if c = '[' then none
      else if c = ']' then some (label.reverse, rest)
      else if isAsciiSpace c then
        if label.head? = some ' ' then labelFrom? label false rest
        else labelFrom? (' ' :: label) false rest
      else labelFrom? (c :: label) (c = '\\') rest

/-- A label after its opening bracket. It holds more than white space and less
than a thousand characters. -/
def label? (text : Text) : Option (Text × Text) :=
  (labelFrom? [] false text).filter fun (label, rest) =>
    label.any (!isAsciiSpace ·) && text.length - rest.length ≤ 1000

/-- A footnote label after its opening bracket and caret. It stands on one
line. -/
def footnoteLabel? (text : Text) : Option (Text × Text) :=
  (label? text).filter fun (_, rest) =>
    !((text.take (text.length - rest.length)).any isLineEnd)

/-- Labels are the same if they differ in case only. -/
def sameLabel (first second : Text) : Bool :=
  Text.caseFold first = Text.caseFold second

/-! ## Destinations -/

/-- The depth to which the parentheses of a destination may nest. -/
def maxDestinationDepth : Nat := 5

/-- A destination in angle brackets, after the opening one. -/
def bracketedDestination? (destination : Text) (escaped : Bool) :
    Text → Option (Text × Text)
  | [] => none
  | c :: rest =>
      if c = '\n' || c = '\r' then none
      else if escaped && isAsciiPunctuation c then
        bracketedDestination? (c :: destination) false rest
      else if c = '<' then none
      else if c = '>' then some (destination.reverse, rest)
      else bracketedDestination? (c :: destination) (c = '\\') rest

/-- A destination without brackets ends at a control character, a space or a
parenthesis that it does not open. -/
def bareDestination? (destination : Text) (escaped : Bool) (depth : Nat) :
    Text → Option (Text × Text)
  | [] => if depth = 0 then some (destination.reverse, []) else none
  | c :: rest =>
      if escaped && isAsciiPunctuation c then
        bareDestination? (c :: destination) false depth rest
      else if c ≤ ' ' || (c = ')' && depth = 0) then
        if depth = 0 then some (destination.reverse, c :: rest) else none
      else if c = '(' then
        if depth > maxDestinationDepth then none
        else bareDestination? (c :: destination) false (depth + 1) rest
      else if c = ')' then
        bareDestination? (c :: destination) false (depth - 1) rest
      else bareDestination? (c :: destination) (c = '\\') depth rest

/-- A destination as it is written, and the text after it. -/
def destination? : Text → Option (Text × Text)
  | '<' :: rest => bracketedDestination? [] false rest
  | text => bareDestination? [] false 0 text

/-! ## Titles -/

/-- A title up to its closing mark. The opening mark may not occur in it. -/
def titleFrom? (opening closing : Char) (title : Text) (escaped : Bool) :
    Text → Option (Text × Text)
  | [] => none
  | c :: rest =>
      if escaped && isAsciiPunctuation c then
        titleFrom? opening closing (c :: title) false rest
      else if c = closing then some (title.reverse, rest)
      else if c = opening then none
      else titleFrom? opening closing (c :: title) (c = '\\') rest

/-- Drop the indentation of the lines of a text after its first. -/
def dropIndentation : Bool → Text → Text
  | _, [] => []
  | true, c :: rest =>
      if isIndentation c then dropIndentation true rest
      else c :: dropIndentation (c = '\n') rest
  | false, c :: rest => c :: dropIndentation (c = '\n') rest

/-- A title in quotes or parentheses, and the text after it. -/
def title? : Text → Option (Text × Text)
  | [] => none
  | opening :: rest =>
      let closing? : Option Char :=
        if opening = '"' || opening = '\'' then some opening
        else if opening = '(' then some ')'
        else none
      match closing? with
      | some closing =>
          (titleFrom? opening closing [] false rest).map fun (title, after) =>
            (unescape (dropIndentation false title), after)
      | none => none

/-! ## Inline links -/

/-- The destination and title of an inline link after its opening parenthesis,
and the text after its closing one. -/
def inlineTarget? (text : Text) : Option (Text × Text × Text) := do
  let (destination, afterDestination) ←
    destination? (text.dropWhile isAsciiSpace)
  let beforeTitle := afterDestination.dropWhile isAsciiSpace
  let (title, afterTitle) := (title? beforeTitle).getD ([], beforeTitle)
  match afterTitle.dropWhile isAsciiSpace with
  | ')' :: rest => some (unescape destination, title, rest)
  | _ => none

/-! ## Definitions -/

/-- What a label stands for. -/
structure LinkDefinition where
  label : Text
  target : Text
  title : Text
deriving Inhabited

/-- The text after a line end, if only blanks stand before it. -/
def afterBlankLine? (text : Text) : Option Text :=
  match text.dropWhile isBlank with
  | [] => some []
  | c :: rest => if isLineEnd c then some rest else none

/-- A definition at the start of the lines of a paragraph, and the lines after
it. A title must end its line; a next line that is no title belongs to the
paragraph. -/
def linkDefinition? (text : Text) : Option (LinkDefinition × Text) := do
  let afterOpening ← Text.after? "[" (text.dropWhile isIndentation)
  let (label, afterLabel) ← label? afterOpening
  let afterColon ← Text.after? ":" afterLabel
  let beforeDestination := afterColon.dropWhile isAsciiSpace
  let (destination, after) ← destination? beforeDestination
  if after.length = beforeDestination.length then none
  else
    let target := unescape destination
    let plain := (afterBlankLine? after).map fun rest =>
      ((⟨label, target, []⟩ : LinkDefinition), rest)
    let beforeTitle := after.dropWhile isAsciiSpace
    let titled := do
      if beforeTitle.length = after.length then none
      let (title, afterTitle) ← title? beforeTitle
      let rest ← afterBlankLine? afterTitle
      some ((⟨label, target, title⟩ : LinkDefinition), rest)
    titled.or plain

/-- The definitions at the start of the lines of a paragraph, at most as many
as the fuel allows, and the lines after them. -/
def linkDefinitionsFrom : Nat → Text → List LinkDefinition × Text
  | 0, text => ([], text)
  | fuel + 1, text =>
      match linkDefinition? text with
      | some (definition, rest) =>
          let (definitions, remaining) := linkDefinitionsFrom fuel rest
          (definition :: definitions, remaining)
      | none => ([], text)

/-- The definitions at the start of the lines of a paragraph, and the lines
after them. Every definition takes a line at least. -/
def linkDefinitions (text : Text) : List LinkDefinition × Text :=
  linkDefinitionsFrom text.length text

end Markdown
end Marginalia
