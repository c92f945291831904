import Marginalia.Markdown.Emphasis
import Marginalia.Markdown.Link
import Marginalia.Markdown.Tag

/-!
# Inline content

The content of a paragraph, a heading or a table cell is read from left to
right. Code spans, HTML and automatic links are taken whole. An opening bracket
waits for its closing bracket, and the two make a link, an image or a footnote
reference if what follows or a definition says so. Delimiter runs are resolved
within each of these and at the end.
-/

namespace Marginalia
namespace Markdown

/-- What the labels of a document stand for. -/
structure References where
  links : List LinkDefinition
  footnotes : List Text

namespace References

/-- The definition of a label. The first one counts. -/
def link? (references : References) (label : Text) : Option LinkDefinition :=
  references.links.find? fun definition => sameLabel definition.label label

def hasFootnote (references : References) (label : Text) : Bool :=
  references.footnotes.any (sameLabel label)

end References

/-! ## Code spans -/

/-- The content of a code span up to a run of backticks of a length, and the
text after the run. -/
def codeSpanFrom? (length : Nat) (content : Text) (run : Nat) :
    Text → Option (Text × Text)
  | [] => if run = length then some ((content.drop run).reverse, []) else none
  | c :: rest =>
      if c = '\x60' then codeSpanFrom? length (c :: content) (run + 1) rest
      else if run = length then some ((content.drop run).reverse, c :: rest)
      else codeSpanFrom? length (c :: content) 0 rest

def codeSpan? (length : Nat) (text : Text) : Option (Text × Text) :=
  codeSpanFrom? length [] 0 text

/-- The code of a code span: its lines are joined by spaces, and a space on
both sides is dropped unless there is nothing else. -/
def codeOf (content : Text) : Text :=
  let spaced := (dropIndentation false content).map fun c =>
    if isLineEnd c then ' ' else c
  if spaced.all (· = ' ') then spaced
  else
    match spaced with
    | ' ' :: inner =>
        if inner.getLast? = some ' ' then inner.dropLast else spaced
    | _ => spaced

/-! ## Automatic links -/

def isSchemeChar (c : Char) : Bool :=
  c.isAlphanum || c = '.' || c = '-' || c = '+'

/-- An address after an opening angle bracket, and the text after the closing
one. -/
def address? (text : Text) : Option (Text × Text) :=
  let scheme := text.takeWhile isSchemeChar
  let starts := (text.head?.map Char.isAlpha).getD false
  match text.drop scheme.length with
  | ':' :: rest =>
      if starts && 2 ≤ scheme.length && scheme.length ≤ 32 then
        let path := rest.takeWhile fun c => ' ' < c && c ≠ '<' && c ≠ '>'
        match rest.drop path.length with
        | '>' :: after => some (scheme ++ ':' :: path, after)
        | _ => none
      else none
  | _ => none

/-- A character of the part of a mail address before the at sign. -/
def isMailboxChar (c : Char) : Bool :=
  c.isAlphanum || ".!#$%&'*+/=?^_\x60\x7b|\x7d~-".toList.contains c

def isDomainLabel (label : Text) : Bool :=
  !label.isEmpty && label.length ≤ 63 && label.head? ≠ some '-' &&
    label.getLast? ≠ some '-'

/-- A mail address after an opening angle bracket, and the text after the
closing one. -/
def mailAddress? (text : Text) : Option (Text × Text) :=
  let mailbox := text.takeWhile isMailboxChar
  match text.drop mailbox.length with
  | '@' :: rest =>
      let domain := rest.takeWhile fun c => c.isAlphanum || c = '-' || c = '.'
      match rest.drop domain.length with
      | '>' :: after =>
          if !mailbox.isEmpty &&
              (Text.splitAtEach '.' domain).all isDomainLabel then
            some (mailbox ++ '@' :: domain, after)
          else none
      | _ => none
  | _ => none

/-! ## Brackets -/

/-- An opening bracket: whether it starts an image, whether it may still become
a link, the text after it and the pieces before it, the latest first. -/
structure OpenBracket where
  isImage : Bool
  isActive : Bool
  source : Text
  before : List Piece

/-- The state of the reader: the pieces after the innermost open bracket, the
latest first, and the open brackets, the innermost first. -/
structure InlineState where
  pieces : List Piece
  brackets : List OpenBracket

inductive BracketLabel where
  | link (label : Text)
  | footnote (label : Text)

/-- The label after an opening bracket, and the text after its closing
bracket. -/
def bracketLabel? (text : Text) : Option (BracketLabel × Text) :=
  let footnote? : Option (Text × Text) :=
    match text with
    | '^' :: c :: rest => if c = ']' then none else footnoteLabel? (c :: rest)
    | _ => none
  match footnote? with
  | some (label, rest) => some (.footnote label, rest)
  | none => (label? text).map fun (label, rest) => (.link label, rest)

namespace OpenBracket

def opening (bracket : OpenBracket) : Text :=
  if bracket.isImage then "![" else "["

/-- Turn an open bracket into text before some pieces, the latest first. -/
def dissolve (bracket : OpenBracket) (pieces : List Piece) : List Piece :=
  pieces ++ .inline (.text bracket.opening) :: bracket.before

/-- All pieces, the latest first, with the open brackets as text. -/
def dissolveAll (pieces : List Piece) : List OpenBracket → List Piece
  | [] => pieces
  | bracket :: outer => dissolveAll (bracket.dissolve pieces) outer

/-- Links do not contain links: a bracket around a link stays text. -/
def deactivate (bracket : OpenBracket) : OpenBracket :=
  if bracket.isImage then bracket else { bracket with isActive := false }

/-- The label between an opening bracket and a closing bracket, if the text
between them is one. -/
def ownLabel? (bracket : OpenBracket) (rest : Text) : Option BracketLabel :=
  match bracketLabel? bracket.source with
  | some (label, after) =>
      if after.length = rest.length then some label else none
  | none => none

/-- The label that a bracket pair refers to, and the length of the text after
the pair that belongs to the reference. A footnote label after the pair stands
for itself. -/
def referenceLabel? (bracket : OpenBracket) (rest : Text) :
    Option (BracketLabel × Nat) :=
  match rest with
  | '[' :: ']' :: _ => (bracket.ownLabel? rest).map fun label => (label, 2)
  | '[' :: inner =>
      match bracketLabel? inner with
      | some (.link label, after) =>
          some (.link label, rest.length - after.length)
      | _ => (bracket.ownLabel? rest).map fun label => (label, 0)
  | _ => (bracket.ownLabel? rest).map fun label => (label, 0)

end OpenBracket

namespace InlineState

def push (state : InlineState) (content : Inline) : InlineState :=
  { state with pieces := .inline content :: state.pieces }

def openBracket (state : InlineState) (isImage : Bool) (source : Text) :
    InlineState :=
  ⟨[], ⟨isImage, true, source, state.pieces⟩ :: state.brackets⟩

def makeLink (pieces : List Piece) (bracket : OpenBracket)
    (outer : List OpenBracket) (target title : Text) : InlineState :=
  let children := resolveEmphasis pieces.reverse
  if bracket.isImage then
    ⟨.inline (.image target title children) :: bracket.before, outer⟩
  else
    ⟨.inline (.link target title children) :: bracket.before,
      outer.map OpenBracket.deactivate⟩

/-- Put a footnote reference in the place of a bracket pair. The brackets
around it stay text. -/
def makeFootnote (bracket : OpenBracket) (outer : List OpenBracket)
    (name : Text) : InlineState :=
  let before :=
    if bracket.isImage then .inline (.text "!") :: bracket.before
    else bracket.before
  ⟨.inline (.footnote name) :: OpenBracket.dissolveAll before outer, []⟩

def leaveBrackets (pieces : List Piece) (bracket : OpenBracket)
    (outer : List OpenBracket) : InlineState :=
  ⟨.inline (.text "]") :: bracket.dissolve pieces, outer⟩

/-- Take in a closing bracket before a text. The answer holds the length of the
text that belongs to the link. -/
def closeBracket (references : References) (state : InlineState)
    (rest : Text) : InlineState × Nat :=
  match state.brackets with
  | [] => (state.push (.text "]"), 0)
  | bracket :: outer =>
      let left := leaveBrackets state.pieces bracket outer
      if !bracket.isActive then (left, 0)
      else
        match (Text.after? "(" rest).bind inlineTarget? with
        | some (target, title, after) =>
            (makeLink state.pieces bracket outer target title,
              rest.length - after.length)
        | none =>
            match bracket.referenceLabel? rest with
            | some (.footnote name, _) =>
                if references.hasFootnote name then
                  (makeFootnote bracket outer name, 0)
                else (left, 0)
            | some (.link label, length) =>
                match references.link? label with
                | some definition =>
                    (makeLink state.pieces bracket outer definition.target
                      definition.title, length)
                | none => (left, 0)
            | none => (left, 0)

/-- Take in blanks before a text: they are dropped at the end of a line, where
two of them make a hard break. -/
def readBlanks (state : InlineState) (c : Char) (rest : Text) :
    InlineState × Nat :=
  let blanks := rest.takeWhile isBlank
  match rest.drop blanks.length with
  | [] => (state, blanks.length)
  | next :: after =>
      if isLineEnd next then
        let lineBreak := if blanks.isEmpty then Inline.softBreak else .hardBreak
        (state.push lineBreak,
          blanks.length + 1 + (after.takeWhile isIndentation).length)
      else (state.push (.text (c :: blanks)), blanks.length)

def readBackslash (state : InlineState) : Text → InlineState × Nat
  | [] => (state.push (.text "\\"), 0)
  | c :: rest =>
      if isLineEnd c then
        (state.push .hardBreak, 1 + (rest.takeWhile isIndentation).length)
      else if isAsciiPunctuation c then (state.push (.text [c]), 1)
      else (state.push (.text "\\"), 0)

/-- Take in a run of backticks, of which the first stands before a text. -/
def readBackticks (state : InlineState) (rest : Text) : InlineState × Nat :=
  let more := runLength '\x60' rest
  match codeSpan? (more + 1) (rest.drop more) with
  | some (content, after) =>
      (state.push (.code (codeOf content)), rest.length - after.length)
  | none => (state.push (.text (List.replicate (more + 1) '\x60')), more)

def readAngle (state : InlineState) (rest : Text) : InlineState × Nat :=
  match address? rest with
  | some (target, after) =>
      (state.push (.link target [] [.text target]), rest.length - after.length)
  | none =>
      match mailAddress? rest with
      | some (address, after) =>
          (state.push
            (.link ("mailto:".toList ++ address) [] [.text address]),
            rest.length - after.length)
      | none =>
          match Tag.afterInline? rest with
          | some after =>
              let length := rest.length - after.length
              (state.push (.html ('<' :: rest.take length)), length)
          | none => (state.push (.text "<"), 0)

/-- Take in a run of a delimiter, of which the first stands before a text. -/
def readDelimiters (state : InlineState) (previous? : Option Char)
    (marker : Char) (rest : Text) : InlineState × Nat :=
  let more := runLength marker rest
  let run :=
    DelimiterRun.between marker (more + 1) previous? (rest.drop more).head?
  if run.isDelimiter then
    ({ state with pieces := .run run :: state.pieces }, more)
  else (state.push (.text (List.replicate (more + 1) marker)), more)

def readAmpersand (state : InlineState) (rest : Text) : InlineState × Nat :=
  match reference? rest with
  | some (characters, length) => (state.push (.text characters), length)
  | none => (state.push (.text "&"), 0)

/-- Whether a character never means anything but itself. -/
def isPlain (c : Char) : Bool :=
  !(isAsciiSpace c || "\\\x60<![]*_~&".toList.contains c)

/-- Take in a character before a text. The answer holds the length of the text
that was read with it. -/
def read (references : References) (state : InlineState)
    (previous? : Option Char) (c : Char) (rest : Text) : InlineState × Nat :=
  if isPlain c then
    let more := rest.takeWhile isPlain
    (state.push (.text (c :: more)), more.length)
  else if isBlank c then readBlanks state c rest
  else if isLineEnd c then
    (state.push .softBreak, (rest.takeWhile isIndentation).length)
  else if c = '\\' then readBackslash state rest
  else if c = '\x60' then readBackticks state rest
  else if c = '<' then readAngle state rest
  else if c = '&' then readAmpersand state rest
  else if c = '[' then (state.openBracket false rest, 0)
  else if c = ']' then closeBracket references state rest
  else if c = '!' then
    match rest with
    | '[' :: source => (state.openBracket true source, 1)
    | _ => (state.push (.text "!"), 0)
  else readDelimiters state previous? c rest

/-- Read a text after a number of characters to skip. -/
def readFrom (references : References) :
    InlineState → Option Char → Nat → Text → InlineState
  | state, _, _, [] => state
  | state, _, skip + 1, c :: rest =>
      readFrom references state (some c) skip rest
  | state, previous?, 0, c :: rest =>
      let (next, length) := read references state previous? c rest
      readFrom references next (some c) length rest

end InlineState

def readInline (references : References) (text : Text) : List Inline :=
  let state := InlineState.readFrom references ⟨[], []⟩ none 0 text
  resolveEmphasis (OpenBracket.dissolveAll state.pieces state.brackets).reverse

end Markdown
end Marginalia
