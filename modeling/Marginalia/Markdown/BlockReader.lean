import Marginalia.Markdown.BlockStart
import Marginalia.Markdown.Table

/-!
# Reading blocks

A document is read line by line. The reader keeps the open containers and the
leaf block that may go on. A line first has to carry the marks of the open
containers; then it continues the open leaf, or it closes what it does not
belong to and starts something new.
-/

namespace Marginalia
namespace Markdown

/-! ## The state of the reader -/

/-- The kinds of blocks that hold other blocks. The lines of an item are
indented at least as far as its content. -/
inductive Container where
  | quote
  | list (mark : Char) (start : Nat) (tight : Bool)
  | item (indent : Nat)
  | footnote (name : Text)

/-- An open container with its blocks, the latest first. -/
structure OpenContainer where
  kind : Container
  children : List (Block Text)

/-- A line of a paragraph, and whether it could be the header of a table that
ends the paragraph. -/
structure ParagraphLine where
  text : Text
  canHeadTable : Bool

/-- The leaf block that the next line may continue. Lines are kept the latest
first. -/
inductive OpenLeaf where
  | nothing
  | paragraph (lines : List ParagraphLine)
  | indentedCode (lines blankLines : List Text)
  | fencedCode (mark : Char) (length indent : Nat) (info : Text)
      (lines : List Text)
  | html (blockEnd : Tag.BlockEnd) (lines : List Text)
  | table (alignments : List Alignment) (header : List Text)
      (rows : List (List Text))

/-- The state of the reader. Containers are kept the innermost first, blocks
the latest first. -/
structure ReaderState where
  blocks : List (Block Text)
  containers : List OpenContainer
  leaf : OpenLeaf
  /-- Whether the line before was blank in a way that can make a list loose. -/
  lastLineBlank : Bool
  /-- Whether an item was begun by a mark alone on its line. -/
  beginsItem : Bool
  /-- The task marker that waits for a paragraph. -/
  task? : Option Bool
  links : List LinkDefinition
  footnotes : List Text

namespace ReaderState

def initial : ReaderState :=
  ⟨[], [], .nothing, false, false, none, [], []⟩

/-! ## Containers -/

def blockOf (container : OpenContainer) : Block Text :=
  let children := container.children.reverse
  match container.kind with
  | .quote => .quote children
  | .list mark start tight =>
      .list (if ListMarker.isOrdered mark then some start else none) tight
        children
  | .item _ => .item children
  | .footnote name => .footnote name children

/-- Add a block to the innermost container. -/
def add (state : ReaderState) (block : Block Text) : ReaderState :=
  match state.containers with
  | [] => { state with blocks := block :: state.blocks }
  | container :: outer =>
      { state with
        containers :=
          { container with children := block :: container.children } :: outer }

/-- Close the innermost container. -/
def pop (state : ReaderState) : ReaderState :=
  match state.containers with
  | [] => state
  | container :: outer =>
      { state with containers := outer }.add (blockOf container)

def popMany (state : ReaderState) : Nat → ReaderState
  | 0 => state
  | count + 1 => state.pop.popMany count

def push (state : ReaderState) (kind : Container) : ReaderState :=
  { state with containers := ⟨kind, []⟩ :: state.containers }

def innermost? (state : ReaderState) : Option Container :=
  state.containers.head?.map OpenContainer.kind

def loosen (container : OpenContainer) : OpenContainer :=
  match container.kind with
  | .list mark start _ => { container with kind := .list mark start false }
  | _ => container

/-- Close an item that was begun by a mark alone, if a blank line followed. -/
def finishEmptyItem (state : ReaderState) : ReaderState :=
  let finished :=
    match state.innermost? with
    | some (.item _) =>
        if state.beginsItem && state.lastLineBlank then state.pop else state
    | _ => state
  { finished with beginsItem := false }

/-- Close the list in which another block than an item starts. A blank line
before the block makes the list around it loose. -/
def finishList (state : ReaderState) : ReaderState :=
  let finished := state.finishEmptyItem
  let closed :=
    match finished.innermost? with
    | some (.list ..) => finished.pop
    | _ => finished
  if closed.lastLineBlank then
    let containers :=
      match closed.containers with
      | inner :: outer :: rest => inner :: loosen outer :: rest
      | containers => containers
    { closed with containers := containers, lastLineBlank := false }
  else closed

/-- Go on with the open list of a mark, or open a new one. -/
def continueList (state : ReaderState) (marker : ListMarker) : ReaderState :=
  let finished := state.finishEmptyItem
  let open? : Option ReaderState :=
    match finished.containers with
    | container :: outer =>
        match container.kind with
        | .list mark _ _ =>
            if mark = marker.mark then
              let kept :=
                if finished.lastLineBlank then loosen container else container
              some { finished with
                containers := kept :: outer, lastLineBlank := false }
            else none
        | _ => none
    | [] => none
  match open? with
  | some continued => continued
  | none =>
      { finished.finishList.push (.list marker.mark marker.number true) with
        lastLineBlank := false }

/-- The place after the mark of a quotation. -/
def afterQuoteMark? (cursor : Cursor) : Option Cursor :=
  ((cursor.skipUpTo 3).2.accept? '>').map fun after => (after.skipUpTo 1).2

/-- The place after the indentation of an item or a footnote. A blank line
needs none. -/
def afterIndent? (indent : Nat) (cursor : Cursor) : Option Cursor :=
  let (columns, after) := cursor.skipUpTo indent
  if columns = indent || after.atEnd then some after else none

/-- The place after the mark of a container on a line that continues it. -/
def afterMark? (cursor : Cursor) : Container → Option Cursor
  | .quote => afterQuoteMark? cursor
  | .list .. => some cursor
  | .item indent => afterIndent? indent cursor
  | .footnote _ => afterIndent? 4 cursor

/-- The number of containers, the outermost first, that a line continues, and
the place after their marks. -/
def matchContainers : List Container → Cursor → Nat × Cursor
  | [], cursor => (0, cursor)
  | container :: inner, cursor =>
      match afterMark? cursor container with
      | some after =>
          let (count, place) := matchContainers inner after
          (count + 1, place)
      | none => (0, cursor)

/-! ## Closing leaves -/

def paragraphText (lines : List ParagraphLine) : Text :=
  Text.joined "\n" (lines.reverse.map ParagraphLine.text)

/-- Take the link definitions off the start of a paragraph. -/
def takeDefinitions (state : ReaderState) (lines : List ParagraphLine) :
    ReaderState × List ParagraphLine :=
  let (definitions, rest) := linkDefinitions (paragraphText lines)
  if definitions.isEmpty then (state, lines)
  else
    let left := if rest.isEmpty then 0 else rest.count '\n' + 1
    ({ state with links := state.links ++ definitions }, lines.take left)

/-- The content of the lines of a paragraph, with the task marker that waits
for it. -/
def contentOf (state : ReaderState) (lines : List ParagraphLine) :
    Lines Text :=
  ⟨state.task?, (paragraphText lines).dropWhile isIndentation⟩

/-- Close a paragraph. Nothing is left of one that holds definitions only. -/
def closeParagraph (state : ReaderState) (lines : List ParagraphLine) :
    ReaderState :=
  let (taken, left) := state.takeDefinitions lines
  if left.isEmpty then taken
  else
    { taken.add (.paragraph (taken.contentOf left)) with task? := none }

def closeLeaf (state : ReaderState) : ReaderState :=
  let closed := { state with leaf := .nothing }
  match state.leaf with
  | .nothing => closed
  | .paragraph lines => closed.closeParagraph lines
  | .indentedCode lines _ => closed.add (.code [] lines.reverse.flatten)
  | .fencedCode _ _ _ info lines =>
      closed.add (.code info lines.reverse.flatten)
  | .html _ lines => closed.add (.html lines.reverse.flatten)
  | .table alignments header rows =>
      closed.add (.table alignments header rows.reverse)

/-! ## Opening containers -/

/-- The place after the mark of an item that stands at some indentation, and
the indentation of the content. Four or more blanks after the mark belong to
the content, except for one of them. -/
def afterListMark (outer : Nat) (marker : ListMarker) (cursor : Cursor) :
    Nat × Cursor :=
  let indent := outer + marker.width + 1
  let start := ((cursor.advance marker.width).skipUpTo 1).2
  if start.isBlank then (indent, start)
  else
    let (columns, after) := start.skipUpTo 4
    if columns < 4 then (indent + columns, after) else (indent, start)

/-- A task marker at the start of an item, and the place after it. -/
def taskMarker? (cursor : Cursor) : Option (Bool × Cursor) :=
  let start := (cursor.skipUpTo 3).2
  match start.rest with
  | '[' :: mark :: ']' :: blank :: _ =>
      if isBlank blank then
        if isBlank mark then some (false, start.advance 3)
        else if mark = 'x' || mark = 'X' then some (true, start.advance 3)
        else none
      else none
  | _ => none

/-- Where opening containers ended: at the content of a line, or with an item
that has no content on it. -/
inductive Opened where
  | content (cursor : Cursor)
  | emptyItem

def openItem (state : ReaderState) (outer : Nat) (marker : ListMarker)
    (cursor : Cursor) : ReaderState × Opened :=
  let (indent, after) := afterListMark outer marker cursor
  let opened := (state.continueList marker).push (.item indent)
  if after.isBlank then ({ opened with beginsItem := true }, .emptyItem)
  else
    match taskMarker? after with
    | some (checked, afterTask) =>
        if afterTask.isBlank then
          ({ opened.add (.taskMarker checked) with beginsItem := true },
            .emptyItem)
        else ({ opened with task? := some checked }, .content afterTask)
    | none => (opened, .content after)

def openFootnote (state : ReaderState) (name : Text) : ReaderState :=
  let finished := state.finishList
  let closed :=
    match finished.innermost? with
    | some (.footnote _) => finished.pop
    | _ => finished
  { closed.push (.footnote name) with footnotes := name :: closed.footnotes }

/-- Open the containers whose marks stand at a place. Every mark takes a
character, so the length of the line bounds their number. -/
def openContainers : Nat → ReaderState → Cursor → ReaderState × Opened
  | 0, state, cursor => (state, .content cursor)
  | fuel + 1, state, cursor =>
      let (outer, start) := cursor.skipUpTo 4
      if 4 ≤ outer then (state, .content cursor)
      else
        match footnoteStart? start.rest with
        | some (name, rest) =>
            openContainers fuel (state.openFootnote name)
              ⟨0, 0, rest.dropWhile isBlank⟩
        | none =>
            let marker? :=
              if isThematicBreak start.rest then none
              else ListMarker.ofText? start.rest
            match marker? with
            | some marker =>
                match state.openItem outer marker start with
                | (opened, .content after) => openContainers fuel opened after
                | (opened, .emptyItem) => (opened, .emptyItem)
            | none =>
                match afterQuoteMark? start with
                | some after =>
                    openContainers fuel (state.finishList.push .quote) after
                | none => (state, .content cursor)

/-! ## Starting leaves -/

/-- Take in a blank line. An empty item that is followed by a blank line gets
no more content. -/
def addBlankLine (state : ReaderState) : ReaderState :=
  match state.containers with
  | [] => { state with lastLineBlank := true }
  | container :: outer =>
      match container.kind with
      | .quote => state
      | .item _ =>
          if state.beginsItem then
            { state with
              containers := { container with kind := .item 0 } :: outer
              lastLineBlank := true }
          else { state with lastLineBlank := true }
      | _ => { state with lastLineBlank := true }

/-- Take in a line of a block of HTML, and close the block with the line that
holds its end. -/
def addHtmlLine (state : ReaderState) (blockEnd : Tag.BlockEnd)
    (lines : List Text) (line : Text) : ReaderState :=
  let opened := { state with leaf := .html blockEnd (line :: lines) }
  match blockEnd with
  | .atText piece => if Text.includes piece line then opened.closeLeaf else opened
  | .atBlankLine => opened

/-- The end of the block of HTML that starts with a text. -/
def htmlEnd? : Text → Option Tag.BlockEnd
  | '<' :: rest => Tag.blockEnd? rest
  | _ => none

def startLeaf (state : ReaderState) (cursor : Cursor) (lineEnd : Text) :
    ReaderState :=
  if cursor.isBlank then state.addBlankLine
  else
    let finished := state.finishList
    let (indent, start) := cursor.skipUpTo 4
    let text := start.rest
    if 4 ≤ indent then
      { finished with
        leaf := .indentedCode [start.remaining ++ lineEnd] []
        lastLineBlank := false }
    else
      match htmlEnd? text with
      | some blockEnd =>
          let spaces := List.replicate (max cursor.spaces indent) ' '
          finished.addHtmlLine blockEnd [] (spaces ++ text ++ lineEnd)
      | none =>
          if isThematicBreak text then finished.add .thematicBreak
          else
            match headingLevel? text, fence? text with
            | some level, _ =>
                finished.add
                  (.heading level ⟨none, headingContent (text.drop level)⟩)
            | none, some (mark, length) =>
                let info := (text.drop length).dropWhile isBlank
                { finished with
                  leaf := .fencedCode mark length indent
                    (unescape (Text.dropEndWhile info isAsciiSpace)) [] }
            | none, none =>
                { finished with leaf := .paragraph [⟨text, false⟩] }

/-- Take in a line that continues no leaf: it continues a number of containers
and may open more before its content. -/
def startBlock (state : ReaderState) (matched : Nat) (cursor : Cursor)
    (line : Line) : ReaderState :=
  let kept := state.closeLeaf.popMany (state.containers.length - matched)
  match openContainers (line.text.length + 1) kept cursor with
  | (opened, .content start) => opened.startLeaf start line.lineEnd
  | (opened, .emptyItem) => opened

/-! ## Continuing leaves -/

/-- Start a table under the last line of a paragraph. -/
def startTable? (state : ReaderState) (lines : List ParagraphLine)
    (alignments : List Alignment) : Option ReaderState :=
  match lines with
  | header :: before =>
      if (before.isEmpty || header.canHeadTable) &&
          Table.isHeader alignments header.text then
        let closed :=
          if before.isEmpty then state else state.closeParagraph before
        some { closed with
          leaf := .table alignments
            (Table.fit alignments.length (Table.cells header.text)) [] }
      else none
  | [] => none

/-- Make a heading of the lines of a paragraph. -/
def underline? (state : ReaderState) (lines : List ParagraphLine)
    (level : Nat) : Option ReaderState :=
  if lines.isEmpty then none
  else
    some { state.add (.heading level (state.contentOf lines)) with
      leaf := .nothing, task? := none }

/-- End a paragraph with a line that makes a table or a heading of it. Link
definitions at its start are no part of either. -/
def endParagraph? (state : ReaderState) (lines : List ParagraphLine)
    (cursor : Cursor) : Option ReaderState :=
  let (indent, start) := cursor.skipUpTo 4
  let level? := if indent < 4 then underlineLevel? start.rest else none
  match Table.alignments? cursor, level? with
  | none, none => none
  | alignments?, level? =>
      let (taken, left) := state.takeDefinitions lines
      (alignments?.bind (taken.startTable? left)).or
        (level?.bind (taken.underline? left))

/-- Take in a line after a paragraph. A line that starts nothing else belongs
to the paragraph, even if it lacks marks of containers. -/
def continueParagraph (state : ReaderState) (lines : List ParagraphLine)
    (matched : Nat) (cursor : Cursor) (line : Line) : ReaderState :=
  let isInside := matched = state.containers.length
  let (indent, start) := cursor.skipUpTo 4
  let isText := indent < 4
  let ended? := if isInside then state.endParagraph? lines cursor else none
  match ended? with
  | some ended => ended
  | none =>
      let ends :=
        (isText && interruptsParagraph (!isInside) start.rest) ||
          cursor.skipAll.atEnd
      if ends then state.startBlock matched cursor line
      else
        let canHeadTable := isInside && isText && start.rest.head? = some '|'
        { state with leaf := .paragraph (⟨cursor.rest, canHeadTable⟩ :: lines) }

def continueIndentedCode (state : ReaderState) (lines blankLines : List Text)
    (matched : Nat) (cursor : Cursor) (line : Line) : ReaderState :=
  let (indent, start) := cursor.skipUpTo 4
  if matched = state.containers.length && (4 ≤ indent || start.atEnd) then
    let text := start.remaining ++ line.lineEnd
    if start.isBlank then
      { state with
        leaf := .indentedCode lines (text :: blankLines), lastLineBlank := true }
    else
      { state with
        leaf := .indentedCode (text :: blankLines ++ lines) []
        lastLineBlank := false }
  else state.startBlock matched cursor line

def continueFencedCode (state : ReaderState) (mark : Char)
    (length indent : Nat) (info : Text) (lines : List Text) (matched : Nat)
    (cursor : Cursor) (line : Line) : ReaderState :=
  if matched = state.containers.length then
    let start := (cursor.skipUpTo indent).2
    let (columns, closing) := start.skipUpTo (4 - indent)
    if columns < 4 - indent && closesFence mark length closing.rest then
      state.closeLeaf
    else
      let text := start.remaining ++ line.lineEnd
      { state with leaf := .fencedCode mark length indent info (text :: lines) }
  else state.startBlock matched cursor line

def continueHtml (state : ReaderState) (blockEnd : Tag.BlockEnd)
    (lines : List Text) (matched : Nat) (cursor : Cursor) (line : Line) :
    ReaderState :=
  let goesOn :=
    match blockEnd with
    | .atText _ => true
    | .atBlankLine => !cursor.isBlank
  if matched = state.containers.length && goesOn then
    state.addHtmlLine blockEnd lines (cursor.remaining ++ line.lineEnd)
  else state.startBlock matched cursor line

def continueTable (state : ReaderState) (alignments : List Alignment)
    (header : List Text) (rows : List (List Text)) (matched : Nat)
    (cursor : Cursor) (line : Line) : ReaderState :=
  let text := cursor.skipAll.rest
  let cells := Table.cells text
  if matched = state.containers.length && !interruptsParagraph true text &&
      !cells.isEmpty then
    { state with
      leaf := .table alignments header
        (Table.fit alignments.length cells :: rows) }
  else state.startBlock matched cursor line

def readLine (state : ReaderState) (line : Line) : ReaderState :=
  let kinds := state.containers.reverse.map OpenContainer.kind
  let (matched, cursor) := matchContainers kinds (Cursor.ofLine line)
  match state.leaf with
  | .nothing => state.startBlock matched cursor line
  | .paragraph lines => state.continueParagraph lines matched cursor line
  | .indentedCode lines blankLines =>
      state.continueIndentedCode lines blankLines matched cursor line
  | .fencedCode mark length indent info lines =>
      state.continueFencedCode mark length indent info lines matched cursor line
  | .html blockEnd lines =>
      state.continueHtml blockEnd lines matched cursor line
  | .table alignments header rows =>
      state.continueTable alignments header rows matched cursor line

/-- Close everything after the last line. -/
def finish (state : ReaderState) : ReaderState :=
  state.closeLeaf.popMany state.containers.length

end ReaderState

/-- The blocks of a document with their content as text, and what its labels
stand for. -/
structure Outline where
  blocks : List (Block Text)
  links : List LinkDefinition
  footnotes : List Text

def Outline.ofText (text : Text) : Outline :=
  let state :=
    ((Line.ofText text).foldl ReaderState.readLine ReaderState.initial).finish
  ⟨state.blocks.reverse, state.links, state.footnotes⟩

end Markdown
end Marginalia
