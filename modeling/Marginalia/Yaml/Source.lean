import Marginalia.Text.Basic

/-!
# Source text with positions

A document is read from a source that knows where it stands. Lines and columns
count from zero here, and from one in messages.
-/

namespace Marginalia.Yaml

/-- A line and a column, both counted from zero. -/
structure Position where
  line : Nat
  column : Nat
  deriving DecidableEq

namespace Position

def start : Position := ⟨0, 0⟩

/-- A position for readers, who count from one. -/
def text (position : Position) : Text :=
  "line " ++ Text.ofNat (position.line + 1) ++ " column " ++
    Text.ofNat (position.column + 1)

/-- The end of a message that gives a position. The start of the document goes
without saying. -/
def note (position : Position) : Text :=
  if position = start then [] else " at " ++ position.text

end Position

/-- Why a text is no document: what is wrong and where, and what was being
read. -/
structure Fault where
  problem : Text
  position : Position
  context : Option (Text × Position) := none
  deriving DecidableEq

def Fault.message (fault : Fault) : Text :=
  fault.problem ++ fault.position.note ++
    match fault.context with
    | none => []
    | some (activity, position) =>
        ", " ++ activity ++
          if position = fault.position then [] else position.note

/-- A space or a tab. -/
def isBlank (c : Char) : Bool :=
  c = ' ' || c = '\t'

def isBreak (c : Char) : Bool :=
  c = '\n' || c = '\r' || c = '\u0085' || c = '\u2028' || c = '\u2029'

/-- A character of a name: a Latin letter, a digit, a hyphen or an
underscore. -/
def isNameCharacter (c : Char) : Bool :=
  c.isAlphanum || c = '-' || c = '_'

def isAllowed (c : Char) : Bool :=
  c = '\t' || c = '\n' || c = '\r' || ('\x20' ≤ c && c ≤ '\x7e') ||
    c = '\u0085' || ('\u00a0' ≤ c && c ≤ '\ufffd') || 0x10000 ≤ c.toNat

/-- What is left to read, the number of characters before it, and the
position it starts at. -/
structure Source where
  rest : Text
  index : Nat
  position : Position

namespace Source

def ofText (text : Text) : Source := ⟨text, 0, .start⟩

def column (source : Source) : Nat := source.position.column

def advance (source : Source) : Source where
  rest := source.rest.drop 1
  index := source.index + 1
  position := ⟨source.position.line, source.column + 1⟩

def advanceBy : Nat → Source → Source
  | 0, source => source
  | count + 1, source => advanceBy count source.advance

/-- Step over a line end; a carriage return and a line feed are one. -/
def advanceLine (source : Source) : Source :=
  let count :=
    match source.rest with
    | '\r' :: '\n' :: _ => 2
    | _ => 1
  ⟨source.rest.drop count, source.index + count,
    ⟨source.position.line + 1, 0⟩⟩

/-- The line end at the start of the rest, as the document's text has it. -/
def lineBreak (source : Source) : Text :=
  match source.rest with
  | '\u2028' :: _ => ['\u2028']
  | '\u2029' :: _ => ['\u2029']
  | _ => ['\n']

/-- The character some places ahead. -/
def ahead? (source : Source) (places : Nat) : Option Char :=
  source.rest[places]?

def startsWith (source : Source) (test : Char → Bool) : Bool :=
  source.rest.head?.any test

/-- Whether the rest is over, or a blank or a line end stands some places
ahead. -/
def endsWordAt (source : Source) (places : Nat) : Bool :=
  match source.ahead? places with
  | none => true
  | some c => isBlank c || isBreak c

def endsLine (source : Source) : Bool :=
  match source.rest with
  | [] => true
  | c :: _ => isBreak c

def skipWhile (test : Char → Bool) (source : Source) : Source :=
  source.advanceBy (source.rest.takeWhile test).length

def skipLine (source : Source) : Source :=
  source.skipWhile fun c => !isBreak c

/-- Whether a line starts here with three marks and nothing else in the
word. -/
def atMarks (mark : Char) (source : Source) : Bool :=
  source.column = 0 && Text.startsWith source.rest [mark, mark, mark] &&
    source.endsWordAt 3

/-- Whether a line starts here with a mark between documents. -/
def atDocumentMark (source : Source) : Bool :=
  source.atMarks '-' || source.atMarks '.'

def fault (source : Source) (problem : Text)
    (context : Option (Text × Position) := none) : Fault :=
  ⟨problem, source.position, context⟩

end Source

end Marginalia.Yaml
