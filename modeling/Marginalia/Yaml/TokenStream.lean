import Marginalia.Yaml.Property
import Marginalia.Yaml.ScalarText

/-!
# From text to tokens

Blocks are marked by indentation only, so their start and end tokens are
derived from the columns of the tokens. A key of a mapping is known as such
only at the colon after it: each token that may be a key is remembered, and
the tokens before the key are put in at its place when the colon comes.
-/

namespace Marginalia.Yaml

/-- A place where a key may have started. -/
structure KeyPlace where
  /-- Whether only a key may stand there. -/
  isRequired : Bool
  /-- The number of tokens before it. -/
  token : Nat
  index : Nat
  position : Position

structure TokenReader where
  source : Source
  /-- The tokens read so far, last first. -/
  tokens : List Token := []
  /-- The column of the current block, below zero outside of blocks. -/
  indent : Int := -1
  /-- The columns of the blocks around it, innermost first. -/
  outerIndents : List Int := []
  /-- Whether a key may start at the current position. -/
  allowsKey : Bool := true
  /-- The place of a possible key on the current level of brackets. -/
  keyPlace : Option KeyPlace := none
  /-- The same for the levels around it, innermost first. -/
  outerKeyPlaces : List (Option KeyPlace) := []

namespace TokenReader

/-- Whether the current position is inside brackets. -/
def inFlow (reader : TokenReader) : Bool :=
  !reader.outerKeyPlaces.isEmpty

def push (reader : TokenReader) (kind : TokenKind) (start stop : Position) :
    TokenReader :=
  { reader with tokens := ⟨kind, start, stop⟩ :: reader.tokens }

/-- Add a token of no width at the current position. -/
def pushHere (reader : TokenReader) (kind : TokenKind) : TokenReader :=
  reader.push kind reader.source.position reader.source.position

/-- Put a token in after the first `count` tokens. -/
def insert (reader : TokenReader) (count : Nat) (token : Token) : TokenReader :=
  let later := reader.tokens.length - count
  { reader with
    tokens := reader.tokens.take later ++ token :: reader.tokens.drop later }

/-- Step over a mark of some characters and add its token. -/
def pushMark (reader : TokenReader) (kind : TokenKind) (width : Nat) :
    TokenReader :=
  let after := reader.source.advanceBy width
  { reader.push kind reader.source.position after.position with source := after }

/-! ## Blocks -/

/-- End the blocks that are indented further than a column, given the columns
of the blocks around the current one. -/
def closeBlocksWithin (column : Int) :
    List Int → TokenReader → TokenReader
  | [], reader =>
      if column < reader.indent then
        { reader.pushHere .blockEnd with indent := -1, outerIndents := [] }
      else reader
  | outer :: others, reader =>
      if column < reader.indent then
        closeBlocksWithin column others
          { reader.pushHere .blockEnd with
            indent := outer
            outerIndents := others }
      else reader

/-- End the blocks that are indented further than a column. Inside brackets
there are none. -/
def closeBlocks (reader : TokenReader) (column : Int) : TokenReader :=
  if reader.inFlow then reader
  else closeBlocksWithin column reader.outerIndents reader

/-- Start a block at a position, its token after the first `count` tokens, if
the position is indented further than the current block. -/
def openBlock (reader : TokenReader) (kind : TokenKind) (count : Nat)
    (position : Position) : TokenReader :=
  if !reader.inFlow && reader.indent < (position.column : Int) then
    { reader.insert count ⟨kind, position, position⟩ with
      indent := position.column
      outerIndents := reader.indent :: reader.outerIndents }
  else reader

/-! ## Keys -/

/-- The fault of a place where a key was required and has no colon. -/
def missingColon (reader : TokenReader) (place : KeyPlace) : Fault :=
  reader.source.fault "could not find expected ':'"
    (some ("while scanning a simple key", place.position))

def dropKeyPlace (reader : TokenReader) : Except Fault TokenReader :=
  match reader.keyPlace with
  | some place =>
      if place.isRequired then .error (reader.missingColon place)
      else .ok { reader with keyPlace := none }
  | none => .ok reader

def saveKeyPlace (reader : TokenReader) : Except Fault TokenReader :=
  if reader.allowsKey then do
    let reader ← reader.dropKeyPlace
    return { reader with
      keyPlace := some {
        isRequired := !reader.inFlow && reader.indent = reader.source.column
        token := reader.tokens.length
        index := reader.source.index
        position := reader.source.position } }
  else .ok reader

/-- Whether a key can no longer have started at a place: a key takes a single
line and at most 1024 characters. -/
def isStale (source : Source) (place : KeyPlace) : Bool :=
  place.position.line < source.position.line ||
    place.index + 1024 < source.index

def dropStaleKeyPlaces (reader : TokenReader) : Except Fault TokenReader :=
  let places := reader.keyPlace :: reader.outerKeyPlaces
  let isGone (place : KeyPlace) : Bool := isStale reader.source place
  match places.reverse.findSome? fun place? =>
      place?.filter fun place => place.isRequired && isGone place with
  | some place => .error (reader.missingColon place)
  | none =>
      let kept (place? : Option KeyPlace) := place?.filter fun place =>
        !isGone place
      .ok { reader with
        keyPlace := kept reader.keyPlace
        outerKeyPlaces := reader.outerKeyPlaces.map kept }

/-! ## Blanks and comments -/

/-- Step over blanks, comments and line ends. A tab does not count as a blank
where a key may start. -/
def skipGap : Nat → TokenReader → TokenReader
  | 0, reader => reader
  | steps + 1, reader =>
      let isGap (c : Char) : Bool :=
        c = ' ' || ((reader.inFlow || !reader.allowsKey) && c = '\t')
      let source := reader.source.skipWhile isGap
      let source :=
        if source.startsWith (· == '#') then source.skipLine else source
      if source.startsWith isBreak then
        skipGap steps { reader with
          source := source.advanceLine
          allowsKey := reader.allowsKey || !reader.inFlow }
      else { reader with source }

/-! ## Tokens -/

/-- Read the end of the text, which counts as the end of a line. -/
def readEnd (reader : TokenReader) : Except Fault TokenReader := do
  let position := reader.source.position
  let reader :=
    if position.column = 0 then reader
    else
      { reader with
        source := { reader.source with position := ⟨position.line + 1, 0⟩ } }
  let reader ← (reader.closeBlocks (-1)).dropKeyPlace
  return { reader.pushHere .streamEnd with allowsKey := false }

/-- Read a line before a document. -/
def readDirectiveLine (reader : TokenReader) : Except Fault TokenReader := do
  let reader ← (reader.closeBlocks (-1)).dropKeyPlace
  let (token, after) ← readDirective reader.source
  return { reader with
    tokens := token :: reader.tokens
    source := after
    allowsKey := false }

def readDocumentMark (reader : TokenReader) (kind : TokenKind) :
    Except Fault TokenReader := do
  let reader ← (reader.closeBlocks (-1)).dropKeyPlace
  return { reader.pushMark kind 3 with allowsKey := false }

def readOpening (reader : TokenReader) (kind : TokenKind) :
    Except Fault TokenReader := do
  let reader ← reader.saveKeyPlace
  return { reader.pushMark kind 1 with
    allowsKey := true
    keyPlace := none
    outerKeyPlaces := reader.keyPlace :: reader.outerKeyPlaces }

def readClosing (reader : TokenReader) (kind : TokenKind) :
    Except Fault TokenReader := do
  let reader ← reader.dropKeyPlace
  let reader :=
    match reader.outerKeyPlaces with
    | [] => reader
    | place :: places =>
        { reader with keyPlace := place, outerKeyPlaces := places }
  return { reader.pushMark kind 1 with allowsKey := false }

def readComma (reader : TokenReader) : Except Fault TokenReader := do
  let reader ← reader.dropKeyPlace
  return { reader.pushMark .flowEntry 1 with allowsKey := true }

/-- Start a block at the current position for a mark that needs one. -/
def openBlockHere (reader : TokenReader) (kind : TokenKind) (problem : Text) :
    Except Fault TokenReader :=
  if reader.inFlow then .ok reader
  else if reader.allowsKey then
    .ok (reader.openBlock kind reader.tokens.length reader.source.position)
  else .error (reader.source.fault problem)

def readEntry (reader : TokenReader) : Except Fault TokenReader := do
  let reader ← reader.openBlockHere .blockSequenceStart
    "block sequence entries are not allowed in this context"
  let reader ← reader.dropKeyPlace
  return { reader.pushMark .blockEntry 1 with allowsKey := true }

def readKeyMark (reader : TokenReader) : Except Fault TokenReader := do
  let reader ← reader.openBlockHere .blockMappingStart
    "mapping keys are not allowed in this context"
  let reader ← reader.dropKeyPlace
  return { reader.pushMark .key 1 with allowsKey := !reader.inFlow }

/-- Read the colon before a value. If a key may have started on this line, it
did. -/
def readColon (reader : TokenReader) : Except Fault TokenReader :=
  match reader.keyPlace with
  | some place =>
      let reader := reader.insert place.token
        ⟨.key, place.position, place.position⟩
      let reader :=
        reader.openBlock .blockMappingStart place.token place.position
      .ok { reader.pushMark .value 1 with keyPlace := none, allowsKey := false }
  | none => do
      let reader ← reader.openBlockHere .blockMappingStart
        "mapping values are not allowed in this context"
      return { reader.pushMark .value 1 with allowsKey := !reader.inFlow }

/-- Add a token that ends where the rest of the source starts. -/
def pushUpTo (reader : TokenReader) (kind : TokenKind) (after : Source) :
    TokenReader :=
  { reader.push kind reader.source.position after.position with
    source := after
    allowsKey := false }

def readAnchor (reader : TokenReader) : Except Fault TokenReader := do
  let reader ← reader.saveKeyPlace
  let (name, after) ← readName "while scanning an anchor" reader.source
  return reader.pushUpTo (.anchor name) after

def readAlias (reader : TokenReader) : Except Fault TokenReader := do
  let reader ← reader.saveKeyPlace
  let (name, after) ← readName "while scanning an alias" reader.source
  return reader.pushUpTo (.alias name) after

def readTagToken (reader : TokenReader) : Except Fault TokenReader := do
  let reader ← reader.saveKeyPlace
  let (tag, after) ← readTag reader.inFlow reader.source
  return reader.pushUpTo (.tag tag) after

def readBlockToken (reader : TokenReader) (style : ScalarStyle) :
    Except Fault TokenReader := do
  let reader ← reader.dropKeyPlace
  let (text, after) ←
    readBlock (style = .folded) reader.indent reader.source
  return { reader.pushUpTo (.scalar text style) after with allowsKey := true }

def readQuotedToken (reader : TokenReader) (quote : Char) (style : ScalarStyle) :
    Except Fault TokenReader := do
  let reader ← reader.saveKeyPlace
  let (text, after) ← readQuoted quote reader.source
  return reader.pushUpTo (.scalar text style) after

/-- Read a plain scalar. A key may follow it on a new line. -/
def readPlainToken (reader : TokenReader) : Except Fault TokenReader := do
  let reader ← reader.saveKeyPlace
  let scalar ← readPlain reader.inFlow (reader.indent + 1) reader.source
  return { reader.pushUpTo (.scalar scalar.text .plain) scalar.source with
    allowsKey := scalar.endsLine }

def startsPlain (reader : TokenReader) (c : Char) : Bool :=
  let isMark := "-?:,[]\x7b\x7d#&*!|>'\"%@\x60".toList.contains c
  let isBlankNext := (reader.source.ahead? 1).any isBlank
  (!isMark && !isBlank c && !isBreak c) || (c = '-' && !isBlankNext) ||
    (!reader.inFlow && (c = '?' || c = ':') && !reader.source.endsWordAt 1)

/-- Read the token that starts with a character. -/
def readFrom (reader : TokenReader) (c : Char) : Except Fault TokenReader :=
  let source := reader.source
  let isAlone := source.endsWordAt 1
  if source.column = 0 && c = '%' then reader.readDirectiveLine
  else if source.atMarks '-' then reader.readDocumentMark .documentStart
  else if source.atMarks '.' then reader.readDocumentMark .documentEnd
  else if c = '[' then reader.readOpening .flowSequenceStart
  else if c = '\x7b' then reader.readOpening .flowMappingStart
  else if c = ']' then reader.readClosing .flowSequenceEnd
  else if c = '\x7d' then reader.readClosing .flowMappingEnd
  else if c = ',' then reader.readComma
  else if c = '-' && isAlone then reader.readEntry
  else if c = '?' && (reader.inFlow || isAlone) then reader.readKeyMark
  else if c = ':' && (reader.inFlow || isAlone) then reader.readColon
  else if c = '*' then reader.readAlias
  else if c = '&' then reader.readAnchor
  else if c = '!' then reader.readTagToken
  else if c = '|' && !reader.inFlow then reader.readBlockToken .literal
  else if c = '>' && !reader.inFlow then reader.readBlockToken .folded
  else if c = '\'' then reader.readQuotedToken '\'' .singleQuoted
  else if c = '"' then reader.readQuotedToken '"' .doubleQuoted
  else if reader.startsPlain c then reader.readPlainToken
  else
    .error (source.fault "found character that cannot start any token"
      (some ("while scanning for the next token", source.position)))

/-- Get to the next token: step over the gap before it and end the blocks that
it is not part of. -/
def settle (reader : TokenReader) : Except Fault TokenReader := do
  let reader := skipGap (reader.source.rest.length + 1) reader
  let reader ← reader.dropStaleKeyPlaces
  return reader.closeBlocks reader.source.column

end TokenReader

/-- The tokens of a text up to a fault, if there is one. -/
structure TokenStream where
  tokens : List Token
  fault : Option Fault

namespace TokenStream

/-- The tokens before a fault. Tokens after a place where a key may still turn
out to have started are not settled yet and do not count. -/
def failed (reader : TokenReader) (fault : Fault) : TokenStream :=
  let places := (reader.keyPlace :: reader.outerKeyPlaces).filterMap id
  let settledCount := places.foldl (fun count place => min count place.token)
    reader.tokens.length
  ⟨reader.tokens.reverse.take settledCount, some fault⟩

/-- Read tokens to the end of the text or up to a fault. -/
def readAll : Nat → TokenReader → TokenStream
  | 0, reader => ⟨reader.tokens.reverse, none⟩
  | steps + 1, reader =>
      match reader.settle with
      | .error fault => failed reader fault
      | .ok settled =>
          match settled.source.rest with
          | [] =>
              match settled.readEnd with
              | .error fault => failed settled fault
              | .ok ended => ⟨ended.tokens.reverse, none⟩
          | c :: _ =>
              match settled.readFrom c with
              | .error fault => failed settled fault
              | .ok next => readAll steps next

/-- The tokens of a text. A mark of the byte order at its start is not part of
it, and a control character anywhere spoils all of it. -/
def ofText (text : Text) : TokenStream :=
  let text := (Text.after? ['\ufeff'] text).getD text
  if text.all isAllowed then
    let source :=
      if text.head? = some '\ufeff' then (Source.ofText text).advance
      else .ofText text
    readAll (text.length + 1) { source }
  else
    let offset := Text.byteLength (text.takeWhile isAllowed)
    let place : Text :=
      if offset = 0 then [] else " at position " ++ Text.ofNat offset
    ⟨[], some ⟨"control characters are not allowed" ++ place, .start, none⟩⟩

end TokenStream

end Marginalia.Yaml
