import Marginalia.Html.Escape
import Marginalia.Markdown.BlockReader
import Marginalia.Markdown.InlineContent

/-!
# HTML of a document

Markdown text becomes HTML in three steps: its blocks are read, then the inline
content of each block with the definitions of the whole document at hand, and
the result is written.

Blocks are written one after the other. The tag of a block starts a new line
unless it stands at the start of one already. Footnotes are numbered in the
order in which their names first appear.
-/

namespace Marginalia
namespace Markdown

/-! ## Characters -/

/-- Write a character of text. Quotes need no escape there. -/
def escapeTextChar (c : Char) : Text :=
  if c = '&' || c = '<' || c = '>' then Html.escapeChar c else [c]

/-- Escape text outside of attributes. -/
def escapeText (text : Text) : Text := text.flatMap escapeTextChar

/-- Whether a character stands for itself in a link target. -/
def isTargetChar (c : Char) : Bool :=
  c.isAlphanum || "!#$%()*+,-./:;=?@^_~".toList.contains c

def hexByte (byte : UInt8) : Text :=
  (Nat.toDigits 16 (byte.toNat / 16) ++ Nat.toDigits 16 (byte.toNat % 16)).map
    Char.toUpper

/-- Write a character of a link target: what is not allowed there is written
as its bytes. -/
def escapeTargetChar (c : Char) : Text :=
  if c = '&' then "&amp;"
  else if c = '\'' then "&#x27;"
  else if isTargetChar c then [c]
  else (String.utf8EncodeChar c).flatMap fun byte => '%' :: hexByte byte

def escapeTarget (text : Text) : Text := text.flatMap escapeTargetChar

/-! ## Output -/

/-- The output so far, the latest part first, whether it stands at the start of
a line, and the names of the footnotes that were numbered. -/
structure Writer where
  parts : List Text
  atLineStart : Bool
  footnotes : List Text

namespace Writer

def empty : Writer := ⟨[], true, []⟩

def output (writer : Writer) : Text := writer.parts.reverse.flatten

def write (writer : Writer) (text : Text) : Writer :=
  match text.getLast? with
  | none => writer
  | some last =>
      { writer with
        parts := text :: writer.parts, atLineStart := last = '\n' }

/-- Write a text at the start of a line. -/
def writeBlock (writer : Writer) (text : Text) : Writer :=
  if writer.atLineStart then writer.write text else writer.write ('\n' :: text)

/-- The number of a footnote. A new name gets the next number. -/
def number (writer : Writer) (name : Text) : Nat × Writer :=
  match writer.footnotes.findIdx? (· = name) with
  | some index => (index + 1, writer)
  | none =>
      (writer.footnotes.length + 1,
        { writer with footnotes := writer.footnotes ++ [name] })

def writeTitle (writer : Writer) (title : Text) : Writer :=
  if title.isEmpty then writer
  else (writer.write "\" title=\"").write (Html.escape title)

def writeTask (writer : Writer) (checked : Bool) : Writer :=
  if checked then
    writer.write "<input disabled=\"\" type=\"checkbox\" checked=\"\"/>\n"
  else writer.write "<input disabled=\"\" type=\"checkbox\"/>\n"

/-! ## Inline content -/

mutual

/-- Write inline content as the description of an image. -/
def writeAlt (writer : Writer) : Inline → Writer
  | .text content => writer.write (Html.escape content)
  | .code content => writer.write (Html.escape content)
  | .html content => writer.write (Html.escape content)
  | .softBreak => writer.write " "
  | .hardBreak => writer.write " "
  | .footnote name =>
      let (number, numbered) := writer.number name
      numbered.write ('[' :: Text.ofNat number ++ [']'])
  | .emphasis children => writeAlts writer children
  | .strong children => writeAlts writer children
  | .strikethrough children => writeAlts writer children
  | .link _ _ children => writeAlts writer children
  | .image _ _ children => writeAlts writer children

def writeAlts (writer : Writer) : List Inline → Writer
  | [] => writer
  | inline :: rest => writeAlts (writeAlt writer inline) rest

end

mutual

def writeInline (writer : Writer) : Inline → Writer
  | .text content => writer.write (escapeText content)
  | .code content =>
      ((writer.write "<code>").write (escapeText content)).write "</code>"
  | .html content => writer.write content
  | .softBreak => writer.write "\n"
  | .hardBreak => writer.write "<br />\n"
  | .footnote name =>
      let opened := (writer.write
        "<sup class=\"footnote-reference\"><a href=\"#").write
          (Html.escape name)
      let (number, numbered) := opened.number name
      ((numbered.write "\">").write (Text.ofNat number)).write "</a></sup>"
  | .emphasis children =>
      (writeInlines (writer.write "<em>") children).write "</em>"
  | .strong children =>
      (writeInlines (writer.write "<strong>") children).write "</strong>"
  | .strikethrough children =>
      (writeInlines (writer.write "<del>") children).write "</del>"
  | .link target title children =>
      let opened := ((writer.write "<a href=\"").write
        (escapeTarget target)).writeTitle title
      (writeInlines (opened.write "\">") children).write "</a>"
  | .image target title children =>
      let opened := ((writer.write "<img src=\"").write
        (escapeTarget target)).write "\" alt=\""
      ((writeAlts opened children).writeTitle title).write "\" />"

def writeInlines (writer : Writer) : List Inline → Writer
  | [] => writer
  | inline :: rest => writeInlines (writeInline writer inline) rest

end

/-- Write lines with the task marker before them. -/
def writeLines (writer : Writer) (lines : Lines (List Inline)) : Writer :=
  let marked :=
    match lines.task? with
    | some checked => writer.writeTask checked
    | none => writer
  marked.writeInlines lines.content

/-! ## Tables -/

def alignmentAttribute : Alignment → Text
  | .unset => []
  | .left => " style=\"text-align: left\""
  | .center => " style=\"text-align: center\""
  | .right => " style=\"text-align: right\""

def writeCells (tag : Text) (writer : Writer) :
    List (Alignment × List Inline) → Writer
  | [] => writer
  | (alignment, content) :: rest =>
      let opened := writer.write
        ('<' :: tag ++ alignmentAttribute alignment ++ ['>'])
      writeCells tag
        ((opened.writeInlines content).write ("</".toList ++ tag ++ ['>'])) rest

def writeRow (alignments : List Alignment) (writer : Writer)
    (row : List (List Inline)) : Writer :=
  (writeCells "td" (writer.write "<tr>") (alignments.zip row)).write "</tr>\n"

def writeTable (writer : Writer) (alignments : List Alignment)
    (header : List (List Inline)) (rows : List (List (List Inline))) : Writer :=
  let head := (writeCells "th" (writer.write "<table><thead><tr>")
    (alignments.zip header)).write "</tr></thead><tbody>\n"
  (rows.foldl (writeRow alignments) head).write "</tbody></table>\n"

/-! ## Blocks -/

/-- Write a code block. The first word of its info names the language. -/
def writeCode (writer : Writer) (info content : Text) : Writer :=
  let language := info.takeWhile (· ≠ ' ')
  let opening :=
    if language.isEmpty then "<pre><code>".toList
    else
      "<pre><code class=\"language-".toList ++ Html.escape language ++
        "\">".toList
  ((writer.writeBlock opening).write (escapeText content)).write
    "</code></pre>\n"

def listOpening : Option Nat → Text
  | none => "<ul>\n"
  | some 1 => "<ol>\n"
  | some start => "<ol start=\"".toList ++ Text.ofNat start ++ "\">\n".toList

def listClosing : Option Nat → Text
  | none => "</ul>\n"
  | some _ => "</ol>\n"

mutual

/-- Write a block. The paragraphs of an item of a tight list have no tags. -/
def writeBlockIn (tight : Bool) (writer : Writer) :
    Block (List Inline) → Writer
  | .paragraph lines =>
      if tight then writer.writeLines lines
      else ((writer.writeBlock "<p>").writeLines lines).write "</p>\n"
  | .heading level lines =>
      let tag := 'h' :: Text.ofNat level
      ((writer.writeBlock ('<' :: tag ++ ['>'])).writeLines lines).write
        ("</".toList ++ tag ++ ">\n".toList)
  | .code info content => writer.writeCode info content
  | .html content => writer.write content
  | .thematicBreak => writer.writeBlock "<hr />\n"
  | .table alignments header rows => writer.writeTable alignments header rows
  | .quote children =>
      (writeBlocks false (writer.writeBlock "<blockquote>\n") children).write
        "</blockquote>\n"
  | .list start? isTight children =>
      (writeBlocks isTight (writer.writeBlock (listOpening start?))
        children).write (listClosing start?)
  | .item children =>
      (writeBlocks tight (writer.writeBlock "<li>") children).write "</li>\n"
  | .footnote name children =>
      let opened := writer.writeBlock
        ("<div class=\"footnote-definition\" id=\"".toList ++
          Html.escape name ++
          "\"><sup class=\"footnote-definition-label\">".toList)
      let (number, numbered) := opened.number name
      let labelled := (numbered.write (Text.ofNat number)).write "</sup>"
      (writeBlocks false labelled children).write "</div>\n"
  | .taskMarker checked => writer.writeTask checked

def writeBlocks (tight : Bool) (writer : Writer) :
    List (Block (List Inline)) → Writer
  | [] => writer
  | block :: rest => writeBlocks tight (writeBlockIn tight writer block) rest

end

end Writer

def renderBlocks (blocks : List (Block (List Inline))) : Text :=
  (Writer.empty.writeBlocks false blocks).output

/-- The blocks of a document with their inline content. -/
def read (text : Text) : List (Block (List Inline)) :=
  let outline := Outline.ofText text
  Block.mapAll (readInline ⟨outline.links, outline.footnotes⟩) outline.blocks

/-- The HTML of a Markdown text. -/
def toHtml (text : Text) : Text := renderBlocks (read text)

end Markdown
end Marginalia
