import Marginalia.Grammar.Token

/-!
# The grammar of C

Directives are keywords, and what a macro stands for is plain text. A name
after `struct`, before another name, before the star of a pointer, in a cast or
at the end of a type definition is a type; the fields of structures are
properties; any other name is a variable.
-/

namespace Marginalia
namespace Grammar
namespace C

def keywords : List String :=
  ["break", "case", "const", "continue", "default", "do", "else", "enum",
   "extern", "for", "if", "inline", "return", "sizeof", "static", "struct",
   "switch", "typedef", "union", "volatile", "while"]

/-- The words that are neither names nor captured. -/
def otherWords : List String :=
  ["auto", "defined", "false", "goto", "offsetof", "register", "restrict",
   "true", "FALSE", "TRUE"]

def nullNames : List String := ["NULL", "nullptr"]

/-- The types that need no declaration. -/
def knownTypes : List String :=
  ["bool", "char", "double", "float", "int", "void", "size_t", "ssize_t",
   "ptrdiff_t", "intptr_t", "uintptr_t", "int8_t", "int16_t", "int32_t",
   "int64_t", "uint8_t", "uint16_t", "uint32_t", "uint64_t"]

def sizeWords : List String := ["unsigned", "signed", "long", "short"]

def operators : List String :=
  ["--", "-=", "->", "!=", "&&", "++", "+=", "==", "||", "-", "=", "*", "&",
   "+", "<", ">"]

/-- Signs that are not captured but would be read as operators. -/
def otherSigns : List String :=
  ["<<=", ">>=", "...", "<<", ">>", "<=", ">=", "*=", "/=", "%=", "&=", "|=",
   "^="]

/-- A directive: a number sign and the word after it. -/
def directive : Reader := fun text =>
  match text with
  | '#' :: rest =>
      let gap := (rest.takeWhile fun c => c = ' ' || c = '\t').length
      let length := word (rest.drop gap)
      if length = 0 then 0 else 1 + gap + length
  | _ => 0

def lexicon : Lexicon :=
  [(.blank, blanks), (.comment, lineComment "//"), (.comment, blockComment),
   (.keyword, directive), (.string, quoted "\""), (.character, quoted "'"),
   (.number, pointNumber), (.word, word),
   (.sign, signs (otherSigns ++ operators))]

/-! ## Lines of directives -/

/-- What the rest of a line means to the directive it stands after. -/
inductive LinePart where
  | code
  | header
  | definition
  | parameters
  | text
deriving DecidableEq

def afterDirective (token : Token) : LinePart :=
  let name := token.text.filter Char.isAlpha
  if name = "include".toList then .header
  else if name = "define".toList then .definition
  else if ["if", "ifdef", "ifndef", "elif", "else", "endif"].any
      fun other => other.toList = name then .code
  else .text

/-- The text up to a closing sign or up to the end of the line, and the tokens
after it. -/
def joinThrough (closing : String) : List Token → Text × List Token
  | [] => ([], [])
  | token :: rest =>
      if token.hasLineEnd then ([], token :: rest)
      else if token.isText closing then (token.text, rest)
      else
        let (text, after) := joinThrough closing rest
        (token.text ++ text, after)

/-- The text up to a comment in slashes and stars or up to the end of the line,
and the tokens after it. A line goes on after a backslash. -/
def joinLine (goesOn : Bool) : List Token → Text × List Token
  | [] => ([], [])
  | token :: rest =>
      if token.hasLineEnd && !goesOn then ([], token :: rest)
      else if Text.startsWith token.text "/*" then ([], token :: rest)
      else
        let (text, after) := joinLine (token.isText "\\") rest
        (token.text ++ text, after)

/-- The tokens that are taken together in a part of a line, the part after
them, and the tokens after them. The name of a header is a string, and the body
of a definition is plain text. -/
def takePart (part : LinePart) (token : Token) (rest : List Token) :
    Token × LinePart × List Token :=
  if token.kind = .keyword then (token, afterDirective token, rest)
  else if token.hasLineEnd then (token, .code, rest)
  else if token.isTrivia then (token, part, rest)
  else
    match part with
    | .code => (token, .code, rest)
    | .header =>
        if token.isText "<" then
          let (text, after) := joinThrough ">" rest
          (⟨.string, token.text ++ text⟩, .code, after)
        else (token, .code, rest)
    | .definition =>
        (token, if startsWithText rest "(" then .parameters else .text, rest)
    | .parameters =>
        (token, if token.isText ")" then .text else .parameters, rest)
    | .text =>
        let (text, after) := joinLine false (token :: rest)
        (⟨.plain, text⟩, .code, after)

/-- Arrange the tokens of lines by what they mean. -/
def arrangeFrom : Nat → LinePart → List Token → List Token
  | fuel + 1, part, token :: rest =>
      let (first, next, others) := takePart part token rest
      first :: arrangeFrom fuel next others
  | _, _, tokens => tokens

/-- Put the words of a number type into one token. -/
def joinSizes : List Token → List Token
  | [] => []
  | token :: rest =>
      let others := joinSizes rest
      if token.isOneOf sizeWords then
        match others with
        | gap :: next :: after =>
            if gap.kind = .blank &&
                (next.kind = .typeName || next.isOneOf knownTypes) then
              ⟨.typeName, token.text ++ gap.text ++ next.text⟩ :: after
            else ⟨.typeName, token.text⟩ :: others
        | _ => ⟨.typeName, token.text⟩ :: others
      else token :: others

/-- Arrange the tokens of directives and of number types. -/
def arrange (tokens : List Token) : List Token :=
  joinSizes (arrangeFrom tokens.length .code tokens)

/-! ## Places of types -/

/-- The state of the painter: the context, for each open brace whether it holds
the fields of a structure, the number of open braces around the type definition
that is being read, and whether the line is that of a directive. -/
structure State where
  context : Context
  braces : List Bool
  definition? : Option Nat
  inDirective : Bool

def holdsFields (context : Context) : Bool :=
  context.follows ["struct", "union"] ||
    (context.beforeLast?.map (·.isOneOf ["struct", "union"])).getD false

/-- Whether a token is a name or the word of a known type. -/
def isNameLike (token : Token) : Bool :=
  token.kind = .word && !token.isOneOf (keywords ++ otherWords)

/-- Whether a name stands before another name on the same line. -/
def isBeforeName (rest : List Token) : Bool :=
  match rest with
  | gap :: next :: _ =>
      gap.kind = .blank && !gap.hasLineEnd && isNameLike next
  | _ => false

def startsStatement (context : Context) : Bool :=
  context.last?.isNone || context.follows [";", "\x7b", "\x7d"]

/-- Whether the parameters of a function stand in a state: no braces are open
but those of structures. -/
def inParameters (state : State) : Bool :=
  state.context.follows ["(", ","] && state.braces.all id

/-- The first token after some stars, if there are stars. -/
def afterStars? (rest : List Token) : Option Token :=
  match rest.dropWhile Token.isTrivia with
  | star :: others =>
      if star.isText "*" then
        others.find? fun token => !token.isTrivia && !token.isText "*"
      else none
  | [] => none

/-- Whether the stars after a name make it the type of a pointer. -/
def isPointed (state : State) (rest : List Token) : Bool :=
  let context := state.context
  match afterStars? rest with
  | some next =>
      (context.follows ["("] && next.isText ")") ||
        (inParameters state && next.isText ",") ||
        (isNameLike next &&
          (startsStatement context || inParameters state ||
            context.follows ["const", "extern", "static", "volatile"]))
  | none => false

/-- Whether a parenthesis after a token can be that of a cast. -/
def canOpenCast (before? : Option Token) : Bool :=
  match before? with
  | some token =>
      !isNameLike token && token.kind ≠ .typeName &&
        !token.isOneOf [")", "]", "if", "for", "sizeof", "switch", "while"]
  | none => false

def isCast (context : Context) (rest : List Token) : Bool :=
  match rest with
  | closing :: after =>
      context.follows ["("] && canOpenCast context.beforeLast? &&
        closing.isText ")" &&
        (significant? after).any fun next =>
          isNameLike next || next.kind = .number || next.kind = .string ||
            next.kind = .character
  | [] => false

/-- Whether a name is the one that a type definition defines. -/
def isDefined (state : State) (rest : List Token) : Bool :=
  state.definition? = some state.braces.length &&
    (significant? rest).any (·.isText ";")

/-! ## Captures -/

def isLabel (context : Context) (rest : List Token) : Bool :=
  context.follows ["goto"] ||
    (startsStatement context && startsWithText rest ":")

def nameCapture (state : State) (token : Token) (rest : List Token) :
    Capture :=
  let context := state.context
  if token.isOneOf nullNames then .constant
  else if token.isOneOf knownTypes then .type
  else if context.follows ["struct", "union", "enum"] then .type
  else if context.follows [".", "->"] then .property
  else if isLabel context rest then .label
  else if isBeforeName rest || isPointed state rest || isCast context rest ||
      isDefined state rest then .type
  else if state.braces.head?.getD false && !context.follows ["["] then
    .property
  else .variable

def capture? (state : State) (token : Token) (rest : List Token) :
    Option Capture :=
  match token.kind with
  | .word =>
      if token.isOneOf keywords then some .keyword
      else if token.isOneOf otherWords then none
      else some (nameCapture state token rest)
  | .character => some .number
  | .sign => if token.isOneOf operators then some .operator else none
  | _ => commonCapture? token

/-- The state after a token. The code after the line of a directive does not
depend on that line. -/
def after (state : State) (token : Token) : State :=
  let endsDirective :=
    state.inDirective && token.kind = .blank && token.hasLineEnd
  let braces :=
    if token.isText "\x7b" then holdsFields state.context :: state.braces
    else if token.isText "\x7d" then state.braces.drop 1
    else state.braces
  let definition? :=
    if token.isText "typedef" then some braces.length
    else if token.isText ";" && state.definition? = some braces.length then none
    else state.definition?
  { context :=
      if endsDirective then Context.start else state.context.after token
    braces := braces
    definition? := definition?
    inDirective :=
      token.kind = .keyword || (state.inDirective && !endsDirective) }

def painter : Painter where
  State := State
  start _ := ⟨Context.start, [], none, false⟩
  step state token rest :=
    ([⟨token.text, capture? state token rest⟩], after state token)

def grammar : Grammar := ⟨lexicon, arrange, painter⟩

end C
end Grammar
end Marginalia
