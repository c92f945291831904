import Marginalia.Grammar.Token

/-!
# The grammar of Rust

Names are captured where they are functions, macros, types, parameters or
fields. Another name is captured as a constructor if it starts with an
upper-case letter, and is plain otherwise. Inside the arguments of a macro only
words that are the same everywhere are captured.
-/

namespace Marginalia
namespace Grammar
namespace Rust

def keywords : List String :=
  ["as", "async", "await", "break", "const", "continue", "crate", "dyn",
   "else", "enum", "extern", "fn", "for", "if", "impl", "in", "let", "loop",
   "match", "mod", "move", "mut", "pub", "ref", "return", "static", "struct",
   "super", "trait", "type", "unsafe", "use", "where", "while", "yield"]

def primitiveTypes : List String :=
  ["bool", "char", "f32", "f64", "i8", "i16", "i32", "i64", "i128", "isize",
   "str", "u8", "u16", "u32", "u64", "u128", "usize"]

def constants : List String := ["true", "false"]

/-- Signs that are read before single characters. -/
def longSigns : List String :=
  ["<<=", ">>=", "...", "..=", "::", "->", "=>", "==", "!=", "<=", ">=", "&&",
   "||", "+=", "-=", "*=", "/=", "%=", "^=", "&=", "|=", "<<", ".."]

def punctuation : List String :=
  ["(", ")", "[", "]", "\x7b", "\x7d", ":", "::", ".", ",", ";"]

def operators : List String := ["&", "*", "'"]

/-! ## Tokens -/

/-- The length of a raw string after its prefix, and zero if there is none. -/
def rawStringLength (text : Text) : Nat :=
  let marks := (text.takeWhile (· = '#')).length
  match text.drop marks with
  | '"' :: inner =>
      marks + 1 + lengthThrough ('"' :: List.replicate marks '#') inner
  | _ => 0

def rawString : Reader := fun text =>
  let start? := (Text.after? "br" text).or (Text.after? "r" text)
  match start? with
  | some start =>
      let length := rawStringLength start
      if length = 0 then 0 else text.length - start.length + length
  | none => 0

/-- A string or a byte string. -/
def string : Reader := fun text =>
  match text with
  | 'b' :: '"' :: inner => 1 + quoted "\"" ('"' :: inner)
  | _ => quoted "\"" text

/-- A character in quotes. A quote before a name alone starts a lifetime. -/
def character : Reader := fun text =>
  match text with
  | '\'' :: '\\' :: _ => quoted "'" text
  | '\'' :: _ :: '\'' :: _ => 3
  | 'b' :: '\'' :: inner => 1 + quoted "'" ('\'' :: inner)
  | _ => 0

/-- The length of a text up to the bracket that closes an open one. -/
def bracketedLength : Nat → Text → Nat
  | _, [] => 0
  | depth, c :: rest =>
      if c = '[' then 1 + bracketedLength (depth + 1) rest
      else if c = ']' then
        if depth = 0 then 1 else 1 + bracketedLength (depth - 1) rest
      else 1 + bracketedLength depth rest

def bracketAttribute : Reader := fun text =>
  match (Text.after? "#[" text).or (Text.after? "#![" text) with
  | some inner => text.length - inner.length + bracketedLength 0 inner
  | none => 0

/-- The keyword that declares a macro. -/
def macroKeyword : String := "macro_rules!"

def lexicon : Lexicon :=
  [(.blank, blanks), (.comment, lineComment "//"), (.comment, blockComment),
   (.attribute, bracketAttribute), (.string, rawString), (.string, string),
   (.character, character), (.number, number), (.keyword, signs [macroKeyword]),
   (.word, word), (.sign, signs longSigns)]

/-! ## States -/

/-- What a pair of brackets holds. The arguments of a type can stand before
the type that they belong to. -/
inductive Brackets where
  | parameters
  | fields
  | initializers
  | variants
  | macroArguments
  | generics (beforeType : Bool)
  | types
  | imports
  | other
deriving DecidableEq

inductive Construct where
  | aggregate
  | variants
  | implementation
  | signature
  | typeDefinition
  | imports
  | condition
  | pattern
  | other
deriving DecidableEq

/-- The state of the painter: the context, the open brackets, the innermost
first, the construct that is being read, whether its bounds are being read,
whether a type is awaited, whether the last token was captured as a type, and
whether the fields of a value or of a pattern come next. -/
structure State where
  context : Context
  brackets : List Brackets
  construct : Construct
  inBounds : Bool
  awaitsType : Bool
  lastIsType : Bool
  awaitsFields : Bool

namespace State

def start : State := ⟨Context.start, [], .other, false, false, false, false⟩

def inner (state : State) : Brackets := state.brackets.head?.getD .other

def inGenerics (state : State) : Bool :=
  match state.inner with
  | .generics _ => true
  | _ => false

end State

/-- Whether a word is a keyword only before some words. -/
def isContextualKeyword (token : Token) (rest : List Token) : Bool :=
  let next? := significant? rest
  (token.isText "default" && next?.any
      (·.isOneOf ["async", "const", "fn", "impl", "type", "unsafe"])) ||
    (token.isText "union" && next?.any (·.kind = .word))

/-- Whether a word is a keyword. The module itself is one in a path and in an
import. -/
def isKeyword (state : State) (token : Token) (rest : List Token) : Bool :=
  token.isOneOf keywords || isContextualKeyword token rest ||
    (token.isText "self" &&
      (startsWithText rest "::" || state.construct = .imports ||
        state.inner = .imports))

/-! ## Captures -/

/-- Whether a word names a macro: a mark and arguments follow it. -/
def isMacroName (rest : List Token) : Bool :=
  match rest with
  | mark :: opening :: _ =>
      mark.isText "!" && opening.isOneOf ["(", "[", "\x7b"]
  | _ => false

def isMacroMark (state : State) (token : Token) (rest : List Token) : Bool :=
  let context := state.context
  token.isText "!" && state.inner ≠ .macroArguments && !context.isApart &&
    context.last?.any (·.kind = .word) &&
    rest.head?.any (·.isOneOf ["(", "[", "\x7b"])

/-- Whether a name before a colon is a field or a parameter. -/
def isBeforeColon (rest : List Token) : Bool :=
  (significant? rest).any (·.isText ":")

def startsFields (state : State) (token : Token) (rest : List Token) : Bool :=
  token.isCapitalised && !state.awaitsType &&
    (state.construct = .other || state.construct = .pattern) &&
    (significant? rest).any (·.isText "\x7b")

def isLifetime (state : State) : Bool :=
  state.context.follows ["'"] && !state.context.isApart

/-- The capture of a name that is none of the names with a certain place. -/
def freeCapture? (token : Token) (rest : List Token) : Option Capture :=
  if token.isCapitalised then some .constructor
  else if startsWithText rest "(" ||
      (startsWithText rest "::" && startsWithText (rest.drop 1) "<") then
    some .function
  else none

/-- The capture of a name in the place of a type. The names before the last one
of a path are free. -/
def typeCapture? (state : State) (token : Token) (rest : List Token) :
    Option Capture :=
  if startsWithText rest "::" ||
      (state.inGenerics && state.context.follows ["const"]) then
    freeCapture? token []
  else some .type

def nameCapture? (state : State) (token : Token) (rest : List Token) :
    Option Capture :=
  let context := state.context
  if token.isText "_" then none
  else if state.inner = .macroArguments then freeCapture? token []
  else if isMacroName rest || context.follows ["fn"] then some .function
  else if context.follows ["."] then some .property
  else if isBeforeColon rest && state.inner = .parameters then some .variable
  else if isBeforeColon rest && context.follows ["|"] then some .variable
  else if isBeforeColon rest &&
      (state.inner = .fields || state.inner = .initializers) then
    some .property
  else if state.awaitsType then typeCapture? state token rest
  else if state.inner = .variants then freeCapture? token []
  else if startsFields state token rest then some .type
  else freeCapture? token rest

def opensGenerics (state : State) (token : Token) (rest : List Token) : Bool :=
  let context := state.context
  token.isText "<" && state.inner ≠ .macroArguments &&
    !rest.head?.any (·.kind = .blank) &&
    (context.follows ["impl", "::"] ||
      (state.construct = .signature &&
        context.beforeLast?.any (·.isText "fn")) ||
      (state.lastIsType && !context.isApart))

def closesGenerics (state : State) (token : Token) : Bool :=
  token.isText ">" && state.inGenerics

def capture? (state : State) (token : Token) (rest : List Token) :
    Option Capture :=
  match token.kind with
  | .word =>
      if isLifetime state then some .label
      else if isKeyword state token rest then some .keyword
      else if token.isOneOf constants then some .constantBuiltin
      else if token.isOneOf primitiveTypes then some .type
      else if token.isText "self" then some .variableBuiltin
      else nameCapture? state token rest
  | .number => some .constantBuiltin
  | .character => some .string
  | .sign =>
      if token.isOneOf punctuation || opensGenerics state token rest ||
          closesGenerics state token then
        some .punctuation
      else if token.isOneOf operators then some .operator
      else if isMacroMark state token rest then some .function
      else none
  | _ => commonCapture? token

/-! ## Steps -/

def parenthesesIn (state : State) : Brackets :=
  let context := state.context
  if state.construct = .signature &&
      (context.beforeLast?.any (·.isText "fn") || context.follows [">"]) then
    .parameters
  else if state.construct = .aggregate || state.inner = .variants ||
      state.awaitsType ||
      (state.lastIsType && context.last?.any (·.kind = .word)) then
    .types
  else .other

def bracesIn (state : State) : Brackets :=
  if state.construct = .aggregate || state.inner = .variants then .fields
  else if state.construct = .variants then .variants
  else if state.construct = .imports then .imports
  else if state.awaitsFields then .initializers
  else .other

def bracketsIn (state : State) (token : Token) : Brackets :=
  let context := state.context
  if state.inner = .macroArguments || context.follows ["!"] ||
      context.beforeLast?.any (·.isText macroKeyword) then
    .macroArguments
  else if token.isText "(" then parenthesesIn state
  else if token.isText "\x7b" then bracesIn state
  else if state.awaitsType then .types
  else .other

def bracketsAfter (state : State) (token : Token) (rest : List Token) :
    List Brackets :=
  if token.isOneOf ["(", "[", "\x7b"] then
    bracketsIn state token :: state.brackets
  else if opensGenerics state token rest then
    .generics (state.context.follows ["impl"]) :: state.brackets
  else if token.isOneOf [")", "]", "\x7d"] || closesGenerics state token then
    state.brackets.drop 1
  else state.brackets

def constructAfter (state : State) (token : Token) (rest : List Token) :
    Construct :=
  let construct := state.construct
  if token.isText "struct" ||
      (token.isText "union" && isContextualKeyword token rest) then .aggregate
  else if token.isText "enum" then .variants
  else if token.isText "impl" && !state.awaitsType then .implementation
  else if token.isText "fn" && !state.awaitsType then .signature
  else if token.isText "type" then .typeDefinition
  else if token.isText "use" then .imports
  else if token.isOneOf ["if", "while", "match", "in"] then .condition
  else if token.isText "for" && construct ≠ .implementation then .pattern
  else if token.isText "let" then
    if construct = .condition then .pattern else .other
  else if token.isText "=" && construct = .pattern then .condition
  else if token.isText "(" && construct = .signature then .other
  else if token.isOneOf ["\x7b", "\x7d", ";", "=>"] then .other
  else construct

def typeKeywords : List String :=
  ["struct", "enum", "trait", "type", "impl", "dyn", "where"]

/-- Words and signs that can stand before a type that is awaited. -/
def typeSigns : List String :=
  ["&", "&&", "*", "[", "::", "'", "?", "mut", "const", "pub", "fn"]

def awaitsTypeAfter (state : State) (token : Token) (rest : List Token) :
    Bool :=
  let inner := (bracketsAfter state token rest).head?.getD .other
  if isLifetime state then state.awaitsType
  else if token.isOneOf typeKeywords || token.isText "->" ||
      isContextualKeyword token rest then true
  else if token.isText "as" then
    state.construct ≠ .imports && state.inner ≠ .imports
  else if token.isText "for" then state.construct = .implementation
  else if token.isText ":" then
    inner ≠ .initializers && inner ≠ .macroArguments
  else if opensGenerics state token rest then true
  else if closesGenerics state token then state.inner = .generics true
  else if token.isText "(" then inner = .types
  else if token.isText "," then
    state.inGenerics || inner = .types || state.inBounds
  else if token.isText "+" then state.lastIsType || state.inGenerics
  else if token.isText "=" then
    state.construct = .typeDefinition || state.inGenerics
  else if token.isOneOf typeSigns then state.awaitsType
  else
    token.kind = .word && state.awaitsType && startsWithText rest "::"

def after (state : State) (token : Token) (rest : List Token)
    (capture? : Option Capture) : State :=
  if token.isTrivia || token.kind = .attribute then
    { state with context := state.context.after ⟨.blank, token.text⟩ }
  else
    { context := state.context.after token
      brackets := bracketsAfter state token rest
      construct := constructAfter state token rest
      inBounds := token.isText "where" ||
        (state.inBounds && !token.isOneOf ["\x7b", ";"])
      awaitsType := awaitsTypeAfter state token rest
      lastIsType := capture? = some .type
      awaitsFields := capture? = some .type && startsFields state token rest }

def painter : Painter where
  State := State
  start _ := State.start
  step state token rest :=
    let captured := capture? state token rest
    ([⟨token.text, captured⟩], after state token rest captured)

def grammar : Grammar := ⟨lexicon, id, painter⟩

end Rust
end Grammar
end Marginalia
