import Marginalia.Yaml.TokenStream

/-!
# Events of a document

A document is a tree of scalars, sequences and mappings. It is held as the
list of its events in the order of the text: the heads of its nodes and the
ends of its collections. A text with a fault still has the events before the
fault.
-/

namespace Marginalia.Yaml

/-- What a node holds. The parts of a collection are events of their own. -/
inductive Content where
  | scalar (text : Text) (style : ScalarStyle)
  | sequence
  | mapping
  deriving DecidableEq

/-- A node without its parts: where it starts, its tag and what it holds. -/
structure NodeHead where
  position : Position
  tag : Option Text
  content : Content
  deriving DecidableEq

/-- A step through a document. -/
inductive Event where
  /-- A scalar, or the start of a collection. -/
  | node (head : NodeHead)
  /-- A second mention of an earlier node. -/
  | alias (target : NodeHead)
  | sequenceEnd
  | mappingEnd
  deriving DecidableEq

/-! ## What is to be read -/

/-- A part of a document that is to be read. -/
inductive Goal where
  | node (isBlock allowsEntries : Bool)
  | blockSequence
  /-- A sequence as deep as the mapping that holds it. -/
  | entries
  | blockKey
  | blockValue
  | flowSequence (isFirst : Bool)
  /-- The parts of a mapping of one pair inside a flow sequence. -/
  | pairKey
  | pairValue
  | pairEnd
  | flowKey (isFirst : Bool)
  | flowValue (isAbsent : Bool)

structure EventReader where
  tokens : List Token
  /-- What is wrong after the last token. -/
  ending : Fault
  /-- The texts for which the handles of tags stand. -/
  handles : List TagName := []
  goals : List Goal := []
  /-- The nodes with an anchor, last first. -/
  anchors : List (Text × NodeHead) := []
  /-- The events read so far, last first. -/
  events : List Event := []

namespace EventReader

/-- The handles that need no directive. -/
def standardHandles : List TagName :=
  [⟨"!".toList, "!".toList⟩, ⟨"!!".toList, "tag:yaml.org,2002:".toList⟩]

def next (reader : EventReader) : Except Fault Token :=
  match reader.tokens with
  | [] => .error reader.ending
  | token :: _ => .ok token

def skip (reader : EventReader) : EventReader :=
  { reader with tokens := reader.tokens.drop 1 }

def push (reader : EventReader) (event : Event) : EventReader :=
  { reader with events := event :: reader.events }

/-- Set what is to be read first. -/
def want (reader : EventReader) (goals : List Goal) : EventReader :=
  { reader with goals := goals ++ reader.goals }

/-- Add a scalar that is not there. -/
def pushAbsent (reader : EventReader) (position : Position) : EventReader :=
  reader.push (.node ⟨position, none, .scalar [] .plain⟩)

/-! ## Nodes -/

/-- The tag and the anchor of a node. -/
structure Properties where
  anchor : Option Text := none
  tag : Option (TagName × Position) := none

/-- Read the tag and the anchor of a node, in either order. -/
def readProperties (reader : EventReader) :
    Except Fault (Properties × EventReader) := do
  let first ← reader.next
  match first.kind with
  | .anchor name => do
      let reader := reader.skip
      let second ← reader.next
      match second.kind with
      | .tag tag => return (⟨some name, some (tag, second.start)⟩, reader.skip)
      | _ => return (⟨some name, none⟩, reader)
  | .tag tag => do
      let reader := reader.skip
      let second ← reader.next
      match second.kind with
      | .anchor name =>
          return (⟨some name, some (tag, first.start)⟩, reader.skip)
      | _ => return (⟨none, some (tag, first.start)⟩, reader)
  | _ => return (⟨none, none⟩, reader)

/-- The full text of a tag. -/
def resolveTag (reader : EventReader) (start : Position) :
    Option (TagName × Position) → Except Fault (Option Text)
  | none => .ok none
  | some (tag, position) =>
      if tag.handle.isEmpty then .ok (some tag.suffix)
      else
        match (reader.handles ++ standardHandles).find? fun known =>
            known.handle = tag.handle with
        | some known => .ok (some (known.suffix ++ tag.suffix))
        | none =>
            .error ⟨"found undefined tag handle", position,
              some ("while parsing a node", start)⟩

/-- Add the head of a node and remember its anchor. -/
def pushNode (reader : EventReader) (anchor : Option Text) (head : NodeHead) :
    EventReader :=
  let anchors :=
    match anchor with
    | some name => (name, head) :: reader.anchors
    | none => reader.anchors
  { reader.push (.node head) with anchors }

/-- Read a node. Its entries may stand as deep as itself where
`allowsEntries`. -/
def readNode (reader : EventReader) (isBlock allowsEntries : Bool) :
    Except Fault EventReader := do
  let first ← reader.next
  match first.kind with
  | .alias name =>
      match reader.anchors.lookup name with
      | some target => return reader.skip.push (.alias target)
      | none => throw ⟨"unknown anchor", first.start, none⟩
  | _ =>
      let (properties, reader) ← reader.readProperties
      let tag ← reader.resolveTag first.start properties.tag
      let token ← reader.next
      let collection (content : Content) : EventReader :=
        reader.pushNode properties.anchor ⟨first.start, tag, content⟩
      match token.kind with
      | .blockEntry =>
          if allowsEntries then
            return (collection .sequence).want [.entries]
      | .scalar text style =>
          let tag := tag.filter (· ≠ ['!'])
          return reader.skip.pushNode properties.anchor
            ⟨first.start, tag, .scalar text style⟩
      | .flowSequenceStart =>
          let reader := collection .sequence
          return reader.skip.want [.flowSequence true]
      | .flowMappingStart =>
          return (collection .mapping).skip.want [.flowKey true]
      | .blockSequenceStart =>
          if isBlock then
            return (collection .sequence).skip.want [.blockSequence]
      | .blockMappingStart =>
          if isBlock then
            return (collection .mapping).skip.want [.blockKey]
      | _ => pure ()
      if properties.anchor.isSome || properties.tag.isSome then
        return reader.pushNode properties.anchor
          ⟨first.start, tag, .scalar [] .plain⟩
      let activity : Text :=
        if isBlock then "while parsing a block node"
        else "while parsing a flow node"
      throw ⟨"did not find expected node content", token.start,
        some (activity, first.start)⟩

/-! ## Collections -/

/-- Whether a token is among those that stand in place of a node. -/
def isOneOf (token : Token) (kinds : List TokenKind) : Bool :=
  kinds.contains token.kind

/-- Read a node in a block, or add an absent one if another mark stands in
its place. -/
def nodeUnless (reader : EventReader) (isBlock allowsEntries : Bool)
    (marks : List TokenKind) (later : List Goal) (absentAt : Token → Position) :
    Except Fault EventReader := do
  let token ← reader.next
  if isOneOf token marks then
    return (reader.pushAbsent (absentAt token)).want later
  else return reader.want (.node isBlock allowsEntries :: later)

/-- Read the next entry of a block sequence, or its end. -/
def readBlockSequence (reader : EventReader) : Except Fault EventReader := do
  let token ← reader.next
  match token.kind with
  | .blockEntry =>
      reader.skip.nodeUnless true false [.blockEntry, .blockEnd]
        [.blockSequence] fun _ => token.stop
  | .blockEnd => return reader.skip.push .sequenceEnd
  | _ =>
      throw ⟨"did not find expected '-' indicator", token.start,
        some ("while parsing a block collection", token.start)⟩

/-- Read the next entry of a sequence as deep as its mapping, or its end. -/
def readEntries (reader : EventReader) : Except Fault EventReader := do
  let token ← reader.next
  match token.kind with
  | .blockEntry =>
      reader.skip.nodeUnless true false [.blockEntry, .key, .value, .blockEnd]
        [.entries] fun _ => token.stop
  | _ => return reader.push .sequenceEnd

/-- Read the next key of a block mapping, or its end. -/
def readBlockKey (reader : EventReader) : Except Fault EventReader := do
  let token ← reader.next
  match token.kind with
  | .key =>
      reader.skip.nodeUnless true true [.key, .value, .blockEnd]
        [.blockValue] fun _ => token.stop
  | .blockEnd => return reader.skip.push .mappingEnd
  | _ =>
      throw ⟨"did not find expected key", token.start,
        some ("while parsing a block mapping", token.start)⟩

/-- Read the value of a block mapping after its key. A value that is not there
stands right after its colon. -/
def readBlockValue (reader : EventReader) : Except Fault EventReader := do
  let token ← reader.next
  match token.kind with
  | .value =>
      reader.skip.nodeUnless true true [.key, .value, .blockEnd]
        [.blockKey] fun _ => token.stop
  | _ => return (reader.pushAbsent token.start).want [.blockKey]

/-- Step over the comma before an entry that is not the first. -/
def skipComma (reader : EventReader) (isFirst : Bool) (problem activity : Text) :
    Except Fault EventReader := do
  let token ← reader.next
  if isFirst then return reader
  else if token.kind = .flowEntry then return reader.skip
  else throw ⟨problem, token.start, some (activity, token.start)⟩

/-- Read the next entry of a flow sequence, or its end. -/
def readFlowSequence (reader : EventReader) (isFirst : Bool) :
    Except Fault EventReader := do
  let token ← reader.next
  if token.kind = .flowSequenceEnd then
    return reader.skip.push .sequenceEnd
  let reader ← reader.skipComma isFirst "did not find expected ',' or ']'"
    "while parsing a flow sequence"
  let token ← reader.next
  match token.kind with
  | .flowSequenceEnd => return reader.skip.push .sequenceEnd
  | .key =>
      let reader := reader.push (.node ⟨token.start, none, .mapping⟩)
      return reader.skip.want [.pairKey, .flowSequence false]
  | _ => return reader.want [.node false false, .flowSequence false]

def readPairKey (reader : EventReader) : Except Fault EventReader := do
  let token ← reader.next
  if isOneOf token [.value, .flowEntry, .flowSequenceEnd] then
    return (reader.skip.pushAbsent token.stop).want [.pairValue]
  else return reader.want [.node false false, .pairValue]

def readPairValue (reader : EventReader) : Except Fault EventReader := do
  let token ← reader.next
  match token.kind with
  | .value =>
      reader.skip.nodeUnless false false [.flowEntry, .flowSequenceEnd]
        [.pairEnd] Token.start
  | _ => return (reader.pushAbsent token.start).want [.pairEnd]

/-- Read the next key of a flow mapping, or its end. -/
def readFlowKey (reader : EventReader) (isFirst : Bool) :
    Except Fault EventReader := do
  let token ← reader.next
  if token.kind = .flowMappingEnd then
    return reader.skip.push .mappingEnd
  let reader ← reader.skipComma isFirst "did not find expected ',' or '\x7d'"
    "while parsing a flow mapping"
  let token ← reader.next
  match token.kind with
  | .flowMappingEnd => return reader.skip.push .mappingEnd
  | .key =>
      reader.skip.nodeUnless false false [.value, .flowEntry, .flowMappingEnd]
        [.flowValue false] Token.start
  | _ => return reader.want [.node false false, .flowValue true]

def readFlowValue (reader : EventReader) (isAbsent : Bool) :
    Except Fault EventReader := do
  let token ← reader.next
  if !isAbsent && token.kind = .value then
    reader.skip.nodeUnless false false [.flowEntry, .flowMappingEnd]
      [.flowKey false] Token.start
  else return (reader.pushAbsent token.start).want [.flowKey false]

def readGoal (reader : EventReader) : Goal → Except Fault EventReader
  | .node isBlock allowsEntries => reader.readNode isBlock allowsEntries
  | .blockSequence => reader.readBlockSequence
  | .entries => reader.readEntries
  | .blockKey => reader.readBlockKey
  | .blockValue => reader.readBlockValue
  | .flowSequence isFirst => reader.readFlowSequence isFirst
  | .pairKey => reader.readPairKey
  | .pairValue => reader.readPairValue
  | .pairEnd => .ok (reader.push .mappingEnd)
  | .flowKey isFirst => reader.readFlowKey isFirst
  | .flowValue isAbsent => reader.readFlowValue isAbsent

/-- Read toward all goals. A fault comes with the reader as it was before. -/
def readGoals : Nat → EventReader → EventReader × Option Fault
  | 0, reader => (reader, none)
  | steps + 1, reader =>
      match reader.goals with
      | [] => (reader, none)
      | goal :: goals =>
          match readGoal { reader with goals } goal with
          | .ok next => readGoals steps next
          | .error fault => (reader, some fault)

end EventReader

/-! ## Documents -/

/-- The events of the first document of a text, the fault that ends them
early, and whether more follows. -/
structure Document where
  events : List Event
  fault : Option Fault
  hasSuccessor : Bool

namespace Document

/-- Whether a token belongs to the start or the end of a document. -/
def isBoundary : TokenKind → Bool
  | .versionDirective _ _ => true
  | .tagDirective _ => true
  | .documentStart => true
  | .documentEnd => true
  | .streamEnd => true
  | _ => false

/-- Read the directives before a document: at most one version, and each
handle once. -/
def readDirectives (ending : Fault) :
    List Token → Bool → List TagName →
      Except Fault (List Token × List TagName)
  | [], _, _ => .error ending
  | token :: tokens, hasVersion, handles =>
      match token.kind with
      | .versionDirective major minor =>
          if hasVersion then
            .error ⟨"found duplicate %YAML directive", token.start, none⟩
          else if major = 1 && (minor = 1 || minor = 2) then
            readDirectives ending tokens true handles
          else .error ⟨"found incompatible YAML document", token.start, none⟩
      | .tagDirective tag =>
          if handles.any fun known => known.handle = tag.handle then
            .error ⟨"found duplicate %TAG directive", token.start, none⟩
          else readDirectives ending tokens hasVersion (tag :: handles)
      | .documentStart => .ok (tokens, handles)
      | _ =>
          .error ⟨"did not find expected <document start>", token.start, none⟩

/-- The document that a reader has read, with a look at what follows it. -/
def conclude (reader : EventReader) : Document :=
  let events := reader.events.reverse
  match reader.tokens with
  | [] => ⟨events, some reader.ending, false⟩
  | tokens =>
      match tokens.dropWhile fun token => token.kind = .documentEnd with
      | [⟨.streamEnd, _, _⟩] => ⟨events, none, false⟩
      | _ => ⟨events, none, true⟩

def readContent (reader : EventReader) : Document :=
  match EventReader.readGoals (4 * reader.tokens.length + 8)
      (reader.want [.node true false]) with
  | (reader, some fault) => ⟨reader.events.reverse, some fault, false⟩
  | (reader, none) => conclude reader

/-- Read a document after its directives. Nothing at all counts as a scalar
that is not there. -/
def readMarked (reader : EventReader) : Document :=
  match reader.tokens with
  | [] => ⟨[], some reader.ending, false⟩
  | token :: _ =>
      if isBoundary token.kind then conclude (reader.pushAbsent token.start)
      else readContent reader

/-- The first document of a text. A text without one has no events. -/
def ofText (text : Text) : Document :=
  let stream := TokenStream.ofText text
  let ending := stream.fault.getD ⟨"unexpected end", .start, none⟩
  match stream.tokens with
  | [] => ⟨[], some ending, false⟩
  | token :: _ =>
      if token.kind = .streamEnd then ⟨[], none, false⟩
      else if isBoundary token.kind && token.kind ≠ .documentEnd then
        match readDirectives ending stream.tokens false [] with
        | .error fault => ⟨[], some fault, false⟩
        | .ok (tokens, handles) => readMarked { tokens, ending, handles }
      else readContent { tokens := stream.tokens, ending }

end Document

end Marginalia.Yaml
