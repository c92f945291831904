import Marginalia.Highlight.Class
import Marginalia.Highlight.Span
import Marginalia.Text.WhiteSpace
import Marginalia.Text.WordCharacter

/-!
# Tokens of program text

Program text is cut into tokens, the blanks included, so that the tokens put
together are the text again. A painter goes over the tokens from left to right
and says which pieces of them are captured.
-/

namespace Marginalia
namespace Grammar

/-! ## Tokens -/

inductive TokenKind where
  | blank
  | comment
  | string
  | character
  | number
  | word
  | sign
  | operator
  | keyword
  | attribute
  | variable
  | typeName
  | plain
deriving DecidableEq

structure Token where
  kind : TokenKind
  text : Text
deriving DecidableEq

namespace Token

/-- Whether a token is a certain word or sign. -/
def isText (token : Token) (text : String) : Bool :=
  (token.kind = .word || token.kind = .sign || token.kind = .keyword) &&
    token.text = text.toList

def isOneOf (token : Token) (texts : List String) : Bool :=
  texts.any token.isText

/-- Whether a token means nothing to the program. -/
def isTrivia (token : Token) : Bool :=
  token.kind = .blank || token.kind = .comment

def hasLineEnd (token : Token) : Bool := token.text.contains '\n'

def isCapitalised (token : Token) : Bool :=
  token.kind = .word && (token.text.head?.map Char.isUpper).getD false

end Token

/-- The first token that means something to the program. -/
def significant? (tokens : List Token) : Option Token :=
  tokens.find? fun token => !token.isTrivia

/-- Whether the next token is a certain word or sign. -/
def startsWithText (tokens : List Token) (text : String) : Bool :=
  (tokens.head?.map (·.isText text)).getD false

/-! ## Readers -/

/-- A reader says how long the token at the start of a text is. It answers zero
if there is no token of its kind. -/
abbrev Reader := Text → Nat

def blanks : Reader := fun text => (text.takeWhile isWhiteSpace).length

/-- A comment from a mark to the end of its line. -/
def lineComment (mark : String) : Reader := fun text =>
  if Text.startsWith text mark then
    (text.takeWhile fun c => c ≠ '\n' && c ≠ '\r').length
  else 0

/-- The length of a text up to and with a closing piece, or of all the text. -/
def lengthThrough (closing : Text) (text : Text) : Nat :=
  match Text.afterFirst? closing text with
  | some after => text.length - after.length
  | none => text.length

/-- A comment between slashes and stars. -/
def blockComment : Reader := fun text =>
  match Text.after? "/*" text with
  | some inner => 2 + lengthThrough "*/" inner
  | none => 0

/-- The length of quoted text up to and with its closing piece. A backslash
protects the character after it. -/
def quotedLength (closing : Text) (escaped : Bool) : Text → Nat
  | [] => 0
  | c :: rest =>
      if escaped then 1 + quotedLength closing false rest
      else if Text.startsWith (c :: rest) closing then closing.length
      else 1 + quotedLength closing (c = '\\') rest

/-- Text between two equal pieces, with backslash escapes. -/
def quoted (mark : String) : Reader := fun text =>
  match Text.after? mark text with
  | some inner => mark.length + quotedLength mark false inner
  | none => 0

/-- Text between two equal pieces, without escapes. -/
def verbatim (mark : String) : Reader := fun text =>
  match Text.after? mark text with
  | some inner => mark.length + lengthThrough mark inner
  | none => 0

/-- The first of some readers that reads anything. -/
def firstOf (readers : List Reader) : Reader := fun text =>
  (readers.findSome? fun reader =>
    let length := reader text
    if length = 0 then none else some length).getD 0

/-- A character that can stand in a number. -/
def isNumberChar (c : Char) : Bool := c.isAlphanum || c = '_'

/-- The length of the digits of a number and of underscores among them. -/
def digitsLength (text : Text) : Nat :=
  (text.takeWhile fun c => c.isDigit || c = '_').length

/-- The length of the fraction of a number. A point before a name or another
point is not part of the number. -/
def fractionLength : Text → Nat
  | '.' :: c :: rest =>
      if c.isDigit then 1 + digitsLength (c :: rest)
      else if c = '.' || isWordCharacter c then 0
      else 1
  | ['.'] => 1
  | _ => 0

def exponentLength : Text → Nat
  | mark :: c :: rest =>
      if mark = 'e' || mark = 'E' then
        if c.isDigit then 1 + digitsLength (c :: rest)
        else if c = '+' || c = '-' then
          let length := digitsLength rest
          if length = 0 then 0 else 2 + length
        else 0
      else 0
  | _ => 0

/-- A number: digits with a base mark, or a decimal number with fraction,
exponent and suffix. -/
def number : Reader := fun text =>
  match text with
  | '0' :: mark :: _ =>
      if "xXoObB".toList.contains mark then
        (text.takeWhile isNumberChar).length
      else decimal text
  | _ => decimal text
where
  /-- A decimal number that starts with a digit. -/
  decimal (text : Text) : Nat :=
    match text with
    | c :: _ =>
        if c.isDigit then
          let whole := digitsLength text
          let fraction := fractionLength (text.drop whole)
          let exponent := exponentLength (text.drop (whole + fraction))
          let length := whole + fraction + exponent
          length + ((text.drop length).takeWhile isNumberChar).length
        else 0
    | [] => 0

/-- A number that may also start with its point. -/
def pointNumber : Reader := fun text =>
  match text with
  | '.' :: c :: rest =>
      if c.isDigit then 1 + number (c :: rest) else 0
  | _ => number text

/-- A word: word characters of which the first is no digit. -/
def word : Reader := fun text =>
  match text with
  | c :: _ =>
      if c.isDigit then 0 else (text.takeWhile isWordCharacter).length
  | [] => 0

/-- The first sign of a list with which a text starts. Longer signs stand
before their beginnings in the list. -/
def signs (list : List String) : Reader := fun text =>
  ((list.find? fun (sign : String) =>
    Text.startsWith text sign).map String.length).getD 0

/-! ## Cutting text into tokens -/

/-- The readers of a language by the kinds of their tokens. The first that
reads anything decides. -/
abbrev Lexicon := List (TokenKind × Reader)

/-- The kind and the length of the token at the start of a text. A character
that no reader knows is a sign. -/
def Lexicon.first (lexicon : Lexicon) (text : Text) : TokenKind × Nat :=
  (lexicon.findSome? fun (kind, reader) =>
    let length := reader text
    if length = 0 then none else some (kind, length)).getD (.sign, 1)

/-- The tokens of a text after a number of characters to skip. -/
def Lexicon.tokensFrom (lexicon : Lexicon) : Nat → Text → List Token
  | _, [] => []
  | skip + 1, _ :: rest => lexicon.tokensFrom skip rest
  | 0, c :: rest =>
      let (kind, length) := lexicon.first (c :: rest)
      ⟨kind, (c :: rest).take length⟩ :: lexicon.tokensFrom (length - 1) rest

def Lexicon.tokens (lexicon : Lexicon) (text : Text) : List Token :=
  lexicon.tokensFrom 0 text

/-! ## Captures -/

/-- What a piece of program text is captured as. -/
inductive Capture where
  | attribute
  | comment
  | constant
  | constantBuiltin
  | constructor
  | function
  | functionBuiltin
  | keyword
  | label
  | number
  | operator
  | property
  | punctuation
  | string
  | type
  | variable
  | variableBuiltin
deriving DecidableEq

def Capture.name : Capture → Text
  | .attribute => "attribute"
  | .comment => "comment"
  | .constant => "constant"
  | .constantBuiltin => "constant.builtin"
  | .constructor => "constructor"
  | .function => "function"
  | .functionBuiltin => "function.builtin"
  | .keyword => "keyword"
  | .label => "label"
  | .number => "number"
  | .operator => "operator"
  | .property => "property"
  | .punctuation => "punctuation"
  | .string => "string"
  | .type => "type"
  | .variable => "variable"
  | .variableBuiltin => "variable.builtin"

/-- A piece of program text and its capture. -/
structure Painted where
  text : Text
  capture? : Option Capture

/-- The spans of painted pieces from an offset on. An empty piece has none. -/
def spansFrom (offset : Nat) : List Painted → List Highlight.Span
  | [] => []
  | piece :: rest =>
      let stop := offset + Text.byteLength piece.text
      let others := spansFrom stop rest
      match piece.capture?.bind fun capture =>
          Highlight.classOfCapture? capture.name with
      | some name =>
          if piece.text.isEmpty then others else ⟨offset, stop, name⟩ :: others
      | none => others

/-! ## Painters -/

/-- A painter has a state, and a step that paints a token before the tokens
that follow it. -/
structure Painter where
  State : Type
  start : List Token → State
  step : State → Token → List Token → List Painted × State

def Painter.paintFrom (painter : Painter) (state : painter.State) :
    List Token → List Painted
  | [] => []
  | token :: rest =>
      let (pieces, next) := painter.step state token rest
      pieces ++ painter.paintFrom next rest

end Grammar

/-- A grammar cuts program text into tokens and paints them. -/
structure Grammar where
  lexicon : Grammar.Lexicon
  arrange : List Grammar.Token → List Grammar.Token
  painter : Grammar.Painter

namespace Grammar

def spans (grammar : Grammar) (code : Text) : List Highlight.Span :=
  let tokens := grammar.arrange (grammar.lexicon.tokens code)
  spansFrom 0 (grammar.painter.paintFrom (grammar.painter.start tokens) tokens)

/-! ## Contexts -/

/-- The last two significant tokens, and whether a blank or a line end stands
since the last of them. -/
structure Context where
  last? : Option Token
  beforeLast? : Option Token
  isApart : Bool
  isNewLine : Bool

namespace Context

def start : Context := ⟨none, none, true, true⟩

def after (context : Context) (token : Token) : Context :=
  if token.isTrivia then
    { context with
      isApart := true
      isNewLine := context.isNewLine || token.hasLineEnd }
  else ⟨some token, context.last?, false, false⟩

def follows (context : Context) (texts : List String) : Bool :=
  (context.last?.map (·.isOneOf texts)).getD false

/-- Whether the last token is a word that is none of some keywords, on the same
line. -/
def followsName (context : Context) (keywords : List String) : Bool :=
  match context.last? with
  | some token =>
      token.kind = .word && !token.isOneOf keywords && !context.isNewLine
  | none => false

end Context

/-- A painter that captures each token whole and looks at the tokens around
it. -/
def contextPainter (capture : Context → Token → List Token → Option Capture) :
    Painter where
  State := Context
  start _ := Context.start
  step context token rest :=
    ([⟨token.text, capture context token rest⟩], context.after token)

/-- The capture of a token that is the same in every language. -/
def commonCapture? (token : Token) : Option Capture :=
  match token.kind with
  | .comment => some .comment
  | .string => some .string
  | .number => some .number
  | .attribute => some .attribute
  | .operator => some .operator
  | .keyword => some .keyword
  | .typeName => some .type
  | _ => none

end Grammar
end Marginalia
