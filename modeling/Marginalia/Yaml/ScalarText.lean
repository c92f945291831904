import Marginalia.Yaml.Source

/-!
# The text of a scalar

Plain and quoted scalars may run over several lines: a single line end counts
as a space, and of several the first is dropped. Block scalars keep their
lines, or fold them in the same way where no line starts with a blank.
-/

namespace Marginalia.Yaml

/-! ## Folding -/

/-- A scalar that runs over lines: its text so far, last character first, and
what stands between that text and the next word. -/
structure Folding where
  content : Text := []
  /-- The blanks since the last word, last first, while on its line. -/
  blanks : Text := []
  /-- The first line end since the last word. -/
  lineBreak : Option Text := none
  /-- The line ends after the first, last first. -/
  laterBreaks : Text := []

namespace Folding

/-- Settle what stands between the words. -/
def settled (folding : Folding) : Folding :=
  match folding.lineBreak with
  | none => { content := folding.blanks ++ folding.content }
  | some lineBreak =>
      let between : Text :=
        if lineBreak = ['\n'] then
          if folding.laterBreaks.isEmpty then [' '] else folding.laterBreaks
        else folding.laterBreaks ++ lineBreak
      { content := between ++ folding.content }

def push (folding : Folding) (c : Char) : Folding :=
  { content := c :: folding.settled.content }

/-- Add a blank. Blanks at the start of a line do not count. -/
def pushBlank (folding : Folding) (c : Char) : Folding :=
  if folding.lineBreak.isSome then folding
  else { folding with blanks := c :: folding.blanks }

/-- Add a line end. Blanks before it do not count. -/
def pushBreak (folding : Folding) (lineBreak : Text) : Folding :=
  if folding.lineBreak.isSome then
    { folding with laterBreaks := lineBreak ++ folding.laterBreaks }
  else { folding with blanks := [], lineBreak := some lineBreak }

def text (folding : Folding) : Text := folding.content.reverse

end Folding

/-! ## Plain scalars -/

/-- A plain scalar that has been read: its text, whether a line ended after
its last word, and what follows. -/
structure PlainScalar where
  text : Text
  endsLine : Bool
  source : Source

/-- Whether a plain scalar ends before the next character. In a flow
collection the collection's own marks end it too. -/
def endsPlain (inFlow : Bool) (source : Source) : Bool :=
  (source.startsWith (· == ':') && source.endsWordAt 1) ||
    (inFlow && source.startsWith fun c => ",[]\x7b\x7d".toList.contains c)

/-- Read on in a plain scalar. Its lines after the first must be indented at
least to `indent`. -/
def readPlainFrom (inFlow : Bool) (indent : Int) (start : Position) :
    Nat → Folding → Source → Except Fault PlainScalar
  | 0, folding, source =>
      .ok ⟨folding.text, folding.lineBreak.isSome, source⟩
  | steps + 1, folding, source =>
      let finished : Except Fault PlainScalar :=
        .ok ⟨folding.text, folding.lineBreak.isSome, source⟩
      let refused (problem : String) : Except Fault PlainScalar :=
        .error (source.fault problem
          (some ("while scanning a plain scalar", start)))
      let isAfterBreak := folding.lineBreak.isSome
      match source.rest with
      | [] => finished
      | c :: following =>
          if isBlank c then
            if isAfterBreak && (source.column : Int) < indent && c = '\t' then
              refused "found a tab character that violates indentation"
            else
              readPlainFrom inFlow indent start steps (folding.pushBlank c)
                source.advance
          else if isBreak c then
            readPlainFrom inFlow indent start steps
              (folding.pushBreak source.lineBreak) source.advanceLine
          else if isAfterBreak && !inFlow && (source.column : Int) < indent then
            finished
          else if source.atDocumentMark then finished
          else if c = '#' && (isAfterBreak || !folding.blanks.isEmpty) then
            finished
          else if inFlow && c = ':' &&
              following.head?.any (",?[]\x7b\x7d".toList.contains ·) then
            refused "found unexpected ':'"
          else if endsPlain inFlow source then finished
          else
            readPlainFrom inFlow indent start steps (folding.push c)
              source.advance

def readPlain (inFlow : Bool) (indent : Int) (source : Source) :
    Except Fault PlainScalar :=
  readPlainFrom inFlow indent source.position (source.rest.length + 1) {} source

/-! ## Quoted scalars -/

/-- The characters for which a letter stands after a backslash. -/
def escapedCharacter? : Char → Option Char
  | '0' => some '\x00'
  | 'a' => some '\x07'
  | 'b' => some '\x08'
  | 't' => some '\t'
  | '\t' => some '\t'
  | 'n' => some '\n'
  | 'v' => some '\x0b'
  | 'f' => some '\x0c'
  | 'r' => some '\r'
  | 'e' => some '\x1b'
  | ' ' => some ' '
  | '"' => some '"'
  | '/' => some '/'
  | '\\' => some '\\'
  | 'N' => some '\u0085'
  | '_' => some '\u00a0'
  | 'L' => some '\u2028'
  | 'P' => some '\u2029'
  | _ => none

/-- The number of digits after a letter that announces a code point. -/
def codePointWidth? : Char → Option Nat
  | 'x' => some 2
  | 'u' => some 4
  | 'U' => some 8
  | _ => none

/-- The character of an escape and the number of characters it takes. -/
def readEscape (start : Position) (source : Source) :
    Except Fault (Char × Nat) :=
  let refused (places : Nat) (problem : String) : Except Fault (Char × Nat) :=
    .error ((source.advanceBy places).fault problem
      (some ("while parsing a quoted scalar", start)))
  match source.ahead? 1 with
  | none => refused 0 "found unknown escape character"
  | some letter =>
      match escapedCharacter? letter, codePointWidth? letter with
      | some c, _ => .ok (c, 2)
      | none, none => refused 0 "found unknown escape character"
      | none, some width =>
          let digits := (source.rest.drop 2).take width
          match Text.readDigits? 16 digits with
          | none => refused 2 "did not find expected hexdecimal number"
          | some value =>
              if digits.length < width then
                refused 2 "did not find expected hexdecimal number"
              else if h : value.isValidChar then
                .ok (Char.ofNatAux value h, 2 + width)
              else refused 2 "found invalid Unicode character escape code"

/-- Read on in a quoted scalar, up to and with the closing quote. -/
def readQuotedFrom (quote : Char) (start : Position) :
    Nat → Folding → Source → Except Fault (Text × Source)
  | 0, _, source => .error (source.fault "found unexpected end of stream")
  | steps + 1, folding, source =>
      let refused (problem : String) : Except Fault (Text × Source) :=
        .error (source.fault problem
          (some ("while scanning a quoted scalar", start)))
      match source.rest with
      | [] => refused "found unexpected end of stream"
      | c :: following =>
          if isBlank c then
            readQuotedFrom quote start steps (folding.pushBlank c)
              source.advance
          else if isBreak c then
            readQuotedFrom quote start steps
              (folding.pushBreak source.lineBreak) source.advanceLine
          else if source.atDocumentMark then
            refused "found unexpected document indicator"
          else if c = quote then
            if quote = '\'' && following.head? = some '\'' then
              readQuotedFrom quote start steps (folding.push c)
                (source.advanceBy 2)
            else .ok (folding.settled.text, source.advance)
          else if quote = '"' && c = '\\' then
            if source.advance.startsWith isBreak then
              readQuotedFrom quote start steps
                { folding.settled with lineBreak := some [] }
                source.advance.advanceLine
            else
              match readEscape start source with
              | .error fault => .error fault
              | .ok (escaped, places) =>
                  readQuotedFrom quote start steps (folding.push escaped)
                    (source.advanceBy places)
          else
            readQuotedFrom quote start steps (folding.push c) source.advance

def readQuoted (quote : Char) (source : Source) : Except Fault (Text × Source) :=
  readQuotedFrom quote source.position (source.rest.length + 1) {}
    source.advance

/-! ## Block scalars -/

/-- What happens to the line ends at the end of a block scalar. -/
inductive Chomping where
  /-- None is kept. -/
  | strip
  /-- The first is kept. -/
  | clip
  /-- All are kept. -/
  | keep
  deriving DecidableEq

structure BlockMarks where
  chomping : Chomping := .clip
  /-- How much further the lines are indented than what surrounds them. -/
  indentation : Option Nat := none

/-- Read the marks of a block scalar: how it ends and how it is indented, in
either order. -/
def readBlockMarks (start : Position) (source : Source) :
    Except Fault (BlockMarks × Source) :=
  let chomping? (source : Source) : Option Chomping :=
    match source.rest.head? with
    | some '+' => some .keep
    | some '-' => some .strip
    | _ => none
  let indentation (source : Source) :
      Except Fault (Option Nat × Source) :=
    match source.rest.head?.bind (Text.digitValue? 10) with
    | none => .ok (none, source)
    | some 0 =>
        .error (source.fault "found an indentation indicator equal to 0"
          (some ("while scanning a block scalar", start)))
    | some width => .ok (some width, source.advance)
  match chomping? source with
  | some chomping => do
      let (width, source) ← indentation source.advance
      return (⟨chomping, width⟩, source)
  | none => do
      let (width, source) ← indentation source
      match width, chomping? source with
      | some _, some chomping => return (⟨chomping, width⟩, source.advance)
      | _, _ => return (⟨.clip, width⟩, source)

/-- Empty lines before a line of a block scalar. -/
structure EmptyLines where
  /-- Their line ends, last first. -/
  breaks : Text
  /-- The widest indentation seen, the next line's among it. -/
  widest : Nat
  source : Source

/-- Read empty lines and the indentation of the next line, up to `indent` if
that is known. -/
def readEmptyLinesFrom (indent : Option Nat) (start : Position) :
    Nat → EmptyLines → Except Fault EmptyLines
  | 0, lines => .ok lines
  | steps + 1, lines =>
      let available := lines.source.rest.takeWhile (· == ' ')
      let width :=
        match indent with
        | none => available.length
        | some indent => min available.length (indent - lines.source.column)
      let source := lines.source.advanceBy width
      let widest := max lines.widest source.column
      let isShort := indent.all (source.column < ·)
      if isShort && source.startsWith (· == '\t') then
        .error (source.fault
          "found a tab character where an indentation space is expected"
          (some ("while scanning a block scalar", start)))
      else if source.startsWith isBreak then
        readEmptyLinesFrom indent start steps
          ⟨source.lineBreak ++ lines.breaks, widest, source.advanceLine⟩
      else .ok ⟨lines.breaks, widest, source⟩

/-- Read empty lines and the indentation of the next line. -/
def readEmptyLines (indent : Option Nat) (start : Position) (source : Source) :
    Except Fault EmptyLines :=
  readEmptyLinesFrom indent start (source.rest.length + 1) ⟨[], 0, source⟩

/-- A block scalar in the making. -/
structure BlockText where
  /-- The text so far, last character first. -/
  content : Text := []
  /-- The end of the last line. -/
  lineBreak : Text := []
  /-- The ends of the empty lines after it, last first. -/
  laterBreaks : Text := []
  /-- Whether the last line starts with a blank. -/
  startsBlank : Bool := false

def BlockText.pushLine (block : BlockText) (folds : Bool) (line lineBreak : Text) :
    BlockText :=
  let startsBlank := line.head?.any isBlank
  let between : Text :=
    if folds && block.lineBreak = ['\n'] && !block.startsBlank &&
        !startsBlank then
      if block.laterBreaks.isEmpty then [' '] else block.laterBreaks
    else block.laterBreaks ++ block.lineBreak
  { content := line.reverse ++ between ++ block.content
    lineBreak
    startsBlank }

def BlockText.text (block : BlockText) : Chomping → Text
  | .strip => block.content.reverse
  | .clip => (block.lineBreak ++ block.content).reverse
  | .keep => (block.laterBreaks ++ block.lineBreak ++ block.content).reverse

/-- Read the lines of a block scalar that are indented by `indent`. -/
def readBlockLines (folds : Bool) (indent : Nat) (start : Position) :
    Nat → BlockText → Source → Except Fault (BlockText × Source)
  | 0, block, source => .ok (block, source)
  | steps + 1, block, source =>
      if source.column = indent && !source.rest.isEmpty then
        let line := source.rest.takeWhile fun c => !isBreak c
        let atEnd := source.skipLine
        let next := if atEnd.rest.isEmpty then atEnd else atEnd.advanceLine
        let lineBreak := if atEnd.rest.isEmpty then [] else atEnd.lineBreak
        match readEmptyLines (some indent) start next with
        | .error fault => .error fault
        | .ok lines =>
            readBlockLines folds indent start steps
              { block.pushLine folds line lineBreak with
                laterBreaks := lines.breaks }
              lines.source
      else .ok (block, source)

/-- Read a block scalar from its mark on. Its lines are indented further than
`parent`. -/
def readBlock (folds : Bool) (parent : Int) (source : Source) :
    Except Fault (Text × Source) := do
  let start := source.position
  let (marks, source) ← readBlockMarks start source.advance
  let source := source.skipWhile isBlank
  let source := if source.startsWith (· == '#') then source.skipLine else source
  if !source.endsLine then
    throw (source.fault "did not find expected comment or line break"
      (some ("while scanning a block scalar", start)))
  let source := if source.rest.isEmpty then source else source.advanceLine
  let given := marks.indentation.map fun width => (max parent 0).toNat + width
  let lines ← readEmptyLines given start source
  let indent := given.getD (max lines.widest (max (parent + 1).toNat 1))
  let (block, source) ←
    readBlockLines folds indent start (lines.source.rest.length + 1)
      { laterBreaks := lines.breaks } lines.source
  return (block.text marks.chomping, source)

end Marginalia.Yaml
