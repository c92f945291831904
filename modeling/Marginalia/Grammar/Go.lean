import Marginalia.Grammar.Token

/-!
# The grammar of Go

A name that is called or declared by `func` is a function, a name in the place
of a type is a type, the fields of structures and what is selected with a point
are properties, and any other name is a variable. The names of packages and
labels are not captured.
-/

namespace Marginalia
namespace Grammar
namespace Go

def keywords : List String :=
  ["break", "case", "chan", "const", "continue", "default", "defer", "else",
   "fallthrough", "for", "func", "go", "goto", "if", "import", "interface",
   "map", "package", "range", "return", "select", "struct", "switch", "type",
   "var"]

def constants : List String := ["true", "false", "nil", "iota"]

/-- The types that need no declaration. -/
def knownTypes : List String :=
  ["any", "bool", "byte", "complex64", "complex128", "error", "float32",
   "float64", "int", "int8", "int16", "int32", "int64", "rune", "string",
   "uint", "uint8", "uint16", "uint32", "uint64", "uintptr"]

def operators : List String :=
  ["...", "<<=", ">>=", "--", "-=", ":=", "!=", "*=", "/=", "&&", "&=", "%=",
   "^=", "++", "+=", "<-", "<<", "<=", "==", ">=", ">>", "|=", "||", "-", "!",
   "*", "/", "&", "%", "^", "+", "<", "=", ">", "|", "~"]

/-- Signs that are not captured but would be read as operators. -/
def otherSigns : List String := ["&^=", "&^"]

def lexicon : Lexicon :=
  [(.blank, blanks), (.comment, lineComment "//"), (.comment, blockComment),
   (.string, quoted "\""), (.string, verbatim "\x60"),
   (.character, quoted "'"), (.number, pointNumber), (.word, word),
   (.sign, signs (otherSigns ++ operators))]

/-! ## Names that the text declares -/

/-- The names that stand after one of some keywords on the same line. -/
def namesAfter (words : List String) : List Token → List Text
  | keyword :: gap :: name :: rest =>
      if keyword.isOneOf words && gap.kind = .blank && !gap.hasLineEnd &&
          name.kind = .word then
        name.text :: namesAfter words rest
      else namesAfter words (gap :: name :: rest)
  | _ => []

def labelKeywords : List String := ["break", "continue", "goto"]

/-! ## States -/

/-- What a pair of brackets holds. -/
inductive Brackets where
  | fields
  | methods
  | typeCases
  | typeGroup
  | signature
  | other
deriving DecidableEq

/-- The state of the painter: the names declared as types, the labels, the
context and the open brackets, the innermost first. A type is awaited after a
sign that belongs to it; a package is named before the type that it holds; and
a case can list types. -/
structure State where
  types : List Text
  labels : List Text
  context : Context
  brackets : List Brackets
  awaitsType : Bool
  namesPackage : Bool
  inTypeCase : Bool

def State.inner (state : State) : Brackets := state.brackets.head?.getD .other

/-- Whether the token before the last one is one of some words and signs. -/
def followsPair (context : Context) (before : List String) (last : String) :
    Bool :=
  context.follows [last] && context.beforeLast?.any (·.isOneOf before)

/-- Whether a parenthesis that opens in a context belongs to a signature: it
stands after `func`, after the name of a function or after the parameters. -/
def opensSignature (context : Context) : Bool :=
  let isNamed := context.last?.any (·.kind = .word)
  context.follows ["func"] ||
    (isNamed && context.beforeLast?.any (·.isOneOf ["func", ")"])) ||
    (context.follows [")"] && context.isApart && !context.isNewLine)

def bracketsIn (context : Context) (token : Token) : Brackets :=
  if token.isText "(" then
    if context.follows ["type"] then .typeGroup
    else if opensSignature context then .signature
    else .other
  else if context.follows ["struct"] then .fields
  else if context.follows ["interface"] then .methods
  else if followsPair context ["type"] ")" then .typeCases
  else .other

/-! ## Places of types -/

/-- Whether a type stands in the place of the next name. -/
def startsType (state : State) : Bool :=
  let context := state.context
  state.awaitsType ||
    context.follows ["type", "chan"] ||
    context.followsName (keywords ++ constants) ||
    (context.follows [")"] && !context.isNewLine) ||
    (context.follows ["]"] && !context.isApart) ||
    followsPair context ["new", "make", "."] "(" ||
    followsPair context ["map"] "[" ||
    (state.inTypeCase && context.follows ["case", ","])

/-- Whether a parameter or an embedded type starts in a state. Either can be a
type without a name. -/
def startsUnnamed (state : State) : Bool :=
  (state.inner = .signature && state.context.follows ["(", ","]) ||
    (state.inner = .methods && state.context.isNewLine)

/-- Whether a star before some tokens belongs to a type. A star between two
values stands apart from both or from none of them. -/
def isPointerStar (state : State) (rest : List Token) : Bool :=
  let context := state.context
  let isFree := context.isApart || !context.last?.any (·.kind = .word)
  (startsType state || startsUnnamed state) && isFree &&
    !rest.head?.any Token.isTrivia &&
    (!context.follows ["]"] || followsPair context ["["] "]")

/-- Whether nothing but a tag follows on the line. -/
def endsLine (rest : List Token) : Bool :=
  match rest.find? fun token => token.kind ≠ .comment with
  | some token =>
      token.hasLineEnd || token.isOneOf [";", "\x7d"] ||
        (token.kind = .blank && (significant? rest).any (·.kind = .string))
  | none => true

def startsField (context : Context) : Bool :=
  context.isNewLine || context.follows ["\x7b", ";", ","]

/-- The capture of a name in the fields of a structure. A type that stands
alone on a line is embedded. -/
def fieldCapture (context : Context) (rest : List Token) : Capture :=
  if startsField context && !endsLine rest then .property else .type

/-- Whether a name is the package of a type: a point and another name follow
it in the place of a type, or before the braces of a value. -/
def isPackage (state : State) (rest : List Token) : Bool :=
  match rest with
  | point :: name :: after =>
      point.isText "." && name.kind = .word &&
        (state.inner = .fields || startsType state || startsUnnamed state ||
          startsWithText after "\x7b")
  | _ => false

/-! ## Captures -/

def isLabel (state : State) (token : Token) (rest : List Token) : Bool :=
  (state.context.follows labelKeywords && !state.context.isNewLine) ||
    (state.labels.contains token.text && state.context.isNewLine &&
      startsWithText rest ":")

/-- Whether a name is another name of an imported package: its path follows
on the same line. -/
def isImportName (rest : List Token) : Bool :=
  match rest with
  | gap :: path :: _ =>
      gap.kind = .blank && !gap.hasLineEnd && path.kind = .string
  | _ => false

def selectedCapture (state : State) (rest : List Token) : Capture :=
  if state.namesPackage || startsWithText rest "\x7b" then .type
  else if startsWithText rest "(" then .function
  else .property

/-- The capture of a name before a parenthesis. -/
def calledCapture (state : State) : Capture :=
  let context := state.context
  if state.inner = .methods && context.isNewLine then .property
  else if context.follows ["]"] && !context.isApart then .type
  else .function

def nameCapture? (state : State) (token : Token) (rest : List Token) :
    Option Capture :=
  let context := state.context
  if context.follows ["package"] || isLabel state token rest then none
  else if context.follows ["."] then some (selectedCapture state rest)
  else if state.inner ≠ .fields && isImportName rest then none
  else if isPackage state rest then none
  else if startsWithText rest "(" then some (calledCapture state)
  else if context.follows ["func"] then some .function
  else if state.inner = .fields then some (fieldCapture context rest)
  else if state.types.contains token.text || token.isOneOf knownTypes then
    some .type
  else if state.inner = .typeGroup && context.isNewLine then some .type
  else if state.inner = .methods && endsLine rest then some .type
  else if startsType state || startsWithText rest "\x7b" then some .type
  else some .variable

def capture? (state : State) (token : Token) (rest : List Token) :
    Option Capture :=
  match token.kind with
  | .word =>
      if token.isOneOf keywords then some .keyword
      else if token.isOneOf constants then some .constantBuiltin
      else nameCapture? state token rest
  | .character => some .string
  | .sign => if token.isOneOf operators then some .operator else none
  | _ => commonCapture? token

def awaitsTypeAfter (state : State) (token : Token) (rest : List Token) :
    Bool :=
  (token.isText "*" && isPointerStar state rest) ||
    (token.isText "..." && state.context.followsName keywords) ||
    (token.isText "<-" && state.context.follows ["chan"])

def after (state : State) (token : Token) (rest : List Token) : State :=
  if token.isTrivia then { state with context := state.context.after token }
  else
    { state with
      context := state.context.after token
      brackets :=
        if token.isOneOf ["(", "\x7b"] then
          bracketsIn state.context token :: state.brackets
        else if token.isOneOf [")", "\x7d"] then state.brackets.drop 1
        else state.brackets
      awaitsType := awaitsTypeAfter state token rest
      namesPackage :=
        if token.isText "." then state.namesPackage
        else token.kind = .word && !token.isOneOf keywords &&
          !state.context.follows ["."] && isPackage state rest
      inTypeCase :=
        (token.isText "case" && state.inner = .typeCases) ||
          (state.inTypeCase && !token.isText ":") }

def painter : Painter where
  State := State
  start tokens :=
    { types := namesAfter ["type"] tokens
      labels := namesAfter labelKeywords tokens
      context := Context.start
      brackets := []
      awaitsType := false
      namesPackage := false
      inTypeCase := false }
  step state token rest :=
    ([⟨token.text, capture? state token rest⟩], after state token rest)

def grammar : Grammar := ⟨lexicon, id, painter⟩

end Go
end Grammar
end Marginalia
