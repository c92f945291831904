import Marginalia.Markdown.Character

/-!
# HTML tags

The tags, comments and declarations of HTML that Markdown passes through. Each
reader starts after the opening angle bracket and answers with the text after
the closing one.
-/

namespace Marginalia
namespace Markdown
namespace Tag

def isNameChar (c : Char) : Bool := c.isAlphanum || c = '-'

def isAttributeStart (c : Char) : Bool := c.isAlpha || c = '_' || c = ':'

def isAttributeChar (c : Char) : Bool :=
  c.isAlphanum || c = '_' || c = '.' || c = ':' || c = '-'

/-- A character of an attribute value without quotes. -/
def isBareValueChar (c : Char) : Bool :=
  !(['\'', '"', ' ', '=', '>', '<', '\x60', '\n', '\r'].contains c)

/-- Where the reader of an opening tag stands. -/
inductive Place where
  | name
  | gap
  | attribute
  | afterAttribute
  | beforeValue
  | bareValue
  | quotedValue (quote : Char)
  | afterQuote
  | slash

/-- What the next character of an opening tag leads to. -/
inductive Move where
  | go (place : Place)
  | finish
  | fail

/-- The move from a place where white space, a slash or the end of the tag can
follow. -/
def afterPart (c : Char) : Move :=
  if isAsciiSpace c then .go .gap
  else if c = '/' then .go .slash
  else if c = '>' then .finish
  else .fail

/-- The move at a character of an opening tag. -/
def move (c : Char) : Place → Move
  | .name => if isNameChar c then .go .name else afterPart c
  | .gap => if isAttributeStart c then .go .attribute else afterPart c
  | .attribute =>
      if isAttributeChar c then .go .attribute
      else if c = '=' then .go .beforeValue
      else if isAsciiSpace c then .go .afterAttribute
      else afterPart c
  | .afterAttribute =>
      if c = '=' then .go .beforeValue
      else if isAsciiSpace c then .go .afterAttribute
      else if isAttributeStart c then .go .attribute
      else afterPart c
  | .beforeValue =>
      if isAsciiSpace c then .go .beforeValue
      else if c = '"' || c = '\'' then .go (.quotedValue c)
      else if isBareValueChar c then .go .bareValue
      else .fail
  | .bareValue => if isBareValueChar c then .go .bareValue else afterPart c
  | .quotedValue quote =>
      if c = quote then .go .afterQuote else .go (.quotedValue quote)
  | .afterQuote => afterPart c
  | .slash => if c = '>' then .finish else .fail

/-- The text after an opening tag, read from a place in it. -/
def openFrom? : Place → Text → Option Text
  | _, [] => none
  | place, c :: rest =>
      match move c place with
      | .go next => openFrom? next rest
      | .finish => some rest
      | .fail => none

def afterOpen? : Text → Option Text
  | c :: rest => if c.isAlpha then openFrom? .name rest else none
  | [] => none

def afterClose? : Text → Option Text
  | '/' :: c :: rest =>
      if c.isAlpha then
        match (rest.dropWhile isNameChar).dropWhile isBlank with
        | '>' :: after => some after
        | _ => none
      else none
  | _ => none

def afterTag? (text : Text) : Option Text :=
  match afterClose? text with
  | some after => some after
  | none => afterOpen? text

/-- The text after a comment, a declaration or a character data section, each
without its leading exclamation mark. A character data section ends with the
first closing brackets in it. -/
def afterDeclaration? (text : Text) : Option Text :=
  if Text.startsWith text "--" then Text.afterFirst? "-->" text
  else
    match Text.after? "[CDATA[" text with
    | some data =>
        let closing := data.dropWhile (· ≠ ']')
        match closing.dropWhile (· = ']') with
        | '>' :: after => if closing.isEmpty then none else some after
        | _ => none
    | none =>
        match text with
        | c :: rest => if c.isAlpha then Text.afterFirst? ">" rest else none
        | [] => none

/-- The text after any piece of HTML inside a paragraph. -/
def afterInline? : Text → Option Text
  | '!' :: rest => afterDeclaration? rest
  | '?' :: rest => Text.afterFirst? "?>" rest
  | text => afterTag? text

/-! ## Blocks -/

/-- Where a block of HTML ends: with the line that holds a text, or before a
blank line. -/
inductive BlockEnd where
  | atText (piece : Text)
  | atBlankLine
deriving Inhabited

/-- Tags whose content is raw text up to their own closing tag. -/
def rawTextTags : List String := ["pre", "style", "script", "textarea"]

def blockTags : List String := [
  "address", "article", "aside", "base", "basefont", "blockquote", "body",
  "caption", "center", "col", "colgroup", "dd", "details", "dialog", "dir",
  "div", "dl", "dt", "fieldset", "figcaption", "figure", "footer", "form",
  "frame", "frameset", "h1", "h2", "h3", "h4", "h5", "h6", "head", "header",
  "hr", "html", "iframe", "legend", "li", "link", "main", "menu", "menuitem",
  "nav", "noframes", "ol", "optgroup", "option", "p", "param", "search",
  "section", "summary", "table", "tbody", "td", "tfoot", "th", "thead",
  "title", "tr", "track", "ul"]

/-- Whether a tag name may end before a text: at the end of the line, a blank
or the end of the tag. -/
def endsName : Text → Bool
  | [] => true
  | c :: _ => isAsciiSpace c || c = '>'

/-- The end of a block whose kind is clear from its first characters. -/
def markedEnd? (text : Text) : Option BlockEnd :=
  let name := (text.takeWhile Char.isAlpha).map Char.toLower
  match rawTextTags.find? fun tag => tag.toList = name with
  | some tag =>
      if endsName (text.drop name.length) then
        some (.atText ("</".toList ++ tag.toList ++ ['>']))
      else none
  | none =>
      if Text.startsWith text "!--" then some (.atText "-->")
      else if Text.startsWith text "?" then some (.atText "?>")
      else if Text.startsWith text "![CDATA[" then some (.atText "]]>")
      else
        match text with
        | '!' :: c :: _ => if c.isAlpha then some (.atText ">") else none
        | _ => none

def startsBlockTag (text : Text) : Bool :=
  let start := (Text.after? "/" text).getD text
  let name := start.takeWhile Char.isAlphanum
  let after := start.drop name.length
  blockTags.any (fun tag => tag.toList = name.map Char.toLower) &&
    (endsName after || Text.startsWith after "/>")

/-- The end of a block of HTML that may stand in the middle of a paragraph. -/
def interruptingEnd? (text : Text) : Option BlockEnd :=
  match markedEnd? text with
  | some blockEnd => some blockEnd
  | none => if startsBlockTag text then some .atBlankLine else none

/-- The end of a block of HTML. A whole tag alone on its line starts a block
too. -/
def blockEnd? (text : Text) : Option BlockEnd :=
  match interruptingEnd? text with
  | some blockEnd => some blockEnd
  | none =>
      match afterTag? text with
      | some after => if isBlankLine after then some .atBlankLine else none
      | none => none

end Tag
end Markdown
end Marginalia
