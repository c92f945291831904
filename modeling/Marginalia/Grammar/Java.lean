import Marginalia.Grammar.Token

/-!
# The grammar of Java

The names of types are found first: a name before another name, in a list of
types, in a cast or in the arguments of a type. Any other name is a variable,
also the name that a class declares. Operators are not captured.
-/

namespace Marginalia
namespace Grammar
namespace Java

def keywords : List String :=
  ["abstract", "assert", "break", "case", "catch", "class", "continue",
   "default", "do", "else", "enum", "extends", "final", "finally", "for", "if",
   "implements", "import", "instanceof", "interface", "native", "new",
   "package", "private", "protected", "public", "return", "static",
   "strictfp", "switch", "synchronized", "throw", "throws", "transient", "try",
   "volatile", "while"]

def primitiveTypes : List String :=
  ["boolean", "byte", "char", "double", "float", "int", "long", "short",
   "void"]

def constants : List String := ["true", "false", "null"]

def reserved : List String :=
  "this" :: "super" :: keywords ++ primitiveTypes ++ constants

def longSigns : List String := ["@interface", "...", "&&", "||", "->", "::"]

def lexicon : Lexicon :=
  [(.blank, blanks), (.comment, lineComment "//"), (.comment, blockComment),
   (.string, quoted "\"\"\""), (.string, quoted "\""),
   (.character, quoted "'"), (.number, pointNumber), (.word, word),
   (.sign, signs longSigns)]

/-! ## Types -/

def isName (token : Token) : Bool :=
  token.kind = .word && !token.isOneOf reserved

def asType (token : Token) : Token :=
  if isName token then { token with kind := .typeName } else token

def isArgumentPart (token : Token) : Bool :=
  token.isTrivia || isName token || token.isOneOf primitiveTypes ||
    token.isOneOf [",", ".", "?", "&", "[", "]", "extends", "super"]

/-- The arguments of a type up to the sign that closes them, with their names
as types, and the tokens after them. -/
def arguments? : Nat → List Token → Option (List Token × List Token)
  | _, [] => none
  | depth, token :: rest =>
      if token.isText ">" && depth = 0 then some ([token], rest)
      else
        let inner? :=
          if token.isText ">" then arguments? (depth - 1) rest
          else if token.isText "<" then arguments? (depth + 1) rest
          else if isArgumentPart token then arguments? depth rest
          else none
        inner?.map fun (inner, after) => (asType token :: inner, after)

/-- The rest of a type after its first name, and the tokens after the type.
A type goes on with selected names, with arguments and with brackets. -/
def typeRest : Nat → List Token → List Token × List Token
  | fuel + 1, first :: second :: rest =>
      if first.isText "." && isName second then
        let (inner, after) := typeRest fuel rest
        (first :: asType second :: inner, after)
      else if first.isText "[" && second.isText "]" then
        let (inner, after) := typeRest fuel rest
        (first :: second :: inner, after)
      else if first.isText "<" then
        match arguments? 0 (second :: rest) with
        | some (closed, others) =>
            let (inner, after) := typeRest fuel others
            (first :: closed ++ inner, after)
        | none => ([], first :: second :: rest)
      else if first.isText "..." then ([first], second :: rest)
      else ([], first :: second :: rest)
  | _, tokens => ([], tokens)

/-! ## Places of types -/

/-- What is known before a token: the last two tokens that mean something,
whether a list of types is going on, and whether the types of a `catch` are. -/
structure Place where
  last? : Option Token
  beforeLast? : Option Token
  listsTypes : Bool
  inCatch : Bool

namespace Place

def start : Place := ⟨none, none, false, false⟩

/-- Whether the last token is one of some words and signs. -/
def follows (place : Place) (texts : List String) : Bool :=
  place.last?.any (·.isOneOf texts)

def listKeywords : List String := ["extends", "implements", "throws", "permits"]

def after (place : Place) (token : Token) : Place :=
  if token.isTrivia then place
  else
    { last? := some token
      beforeLast? := place.last?
      listsTypes := token.isOneOf listKeywords ||
        (place.listsTypes && (token.kind = .typeName || token.isText ","))
      inCatch := token.isText "catch" ||
        (place.inCatch && !token.isText ")") }

end Place

/-- Keywords before parentheses that hold no type of a cast. -/
def parenthesisKeywords : List String :=
  ["catch", "for", "if", "switch", "synchronized", "try", "while"]

/-- Whether a parenthesis after a token can be that of a cast. -/
def canOpenCast (before? : Option Token) : Bool :=
  match before? with
  | some token =>
      !isName token && token.kind ≠ .typeName &&
        !token.isOneOf (")" :: "]" :: "this" :: "super" :: parenthesisKeywords)
  | none => true

def canBeCast (token : Token) : Bool :=
  isName token || token.isOneOf ["(", "!", "~", "this", "super", "new"] ||
    token.isOneOf constants ||
    token.kind = .string || token.kind = .character || token.kind = .number

def isCast (place : Place) (after : List Token) : Bool :=
  match after with
  | closing :: rest =>
      place.follows ["("] && canOpenCast place.beforeLast? &&
        closing.isText ")" && (significant? rest).any canBeCast
  | [] => false

/-- Whether a name with the rest of its type stands in the place of a type. -/
def isType (place : Place) (token : Token) (inner after : List Token) : Bool :=
  let next? := significant? after
  place.follows ("new" :: "instanceof" :: Place.listKeywords) ||
    (place.listsTypes && place.follows [","]) ||
    next?.any isName ||
    (place.inCatch && next?.any (·.isText "|")) ||
    inner.any (·.isText "]") ||
    (token.isCapitalised && inner.any (·.isText "<")) ||
    isCast place after ||
    (startsWithText after "." && startsWithText (after.drop 1) "class")

/-- Whether a word is a keyword in its place only. -/
def isContextualKeyword (place : Place) (token : Token) (rest : List Token) :
    Bool :=
  match rest with
  | gap :: next :: after =>
      gap.kind = .blank &&
        ((token.isText "record" && isName next &&
            (startsWithText after "(" || startsWithText after "<")) ||
          (token.isText "permits" && isName next) ||
          (token.isText "sealed" && next.isOneOf keywords) ||
          (token.isText "yield" && canBeCast next &&
            (place.last?.isNone || place.follows ["\x7b", "\x7d", ";", ":"])))
  | _ => false

def declarationWords : List String :=
  ["class", "interface", "enum", "record", "@interface"]

/-- The tokens that are taken together at a place, with the names of types
among them marked, and the tokens after them. -/
def takeMarked (fuel : Nat) (place : Place) (token : Token)
    (rest : List Token) : List Token × List Token :=
  let (inner, after) := typeRest fuel rest
  if isContextualKeyword place token rest then
    ([{ token with kind := .keyword }], rest)
  else if isName token then
    if place.follows declarationWords then (token :: inner, after)
    else if !place.follows ["@", "."] && isType place token inner after then
      (asType token :: inner, after)
    else ([token], rest)
  else if token.isText "<" && !place.last?.any isName then
    match arguments? 0 rest with
    | some (closed, others) => (token :: closed, others)
    | none => ([token], rest)
  else ([token], rest)

/-- Mark the names of types from a place on. -/
def arrangeFrom : Nat → Place → List Token → List Token
  | fuel + 1, place, token :: rest =>
      let (taken, others) := takeMarked fuel place token rest
      let next := (taken.head?.map place.after).getD place
      taken ++ arrangeFrom fuel next others
  | _, _, tokens => tokens

/-- Mark the names of types among tokens. -/
def arrange (tokens : List Token) : List Token :=
  arrangeFrom tokens.length Place.start tokens

/-! ## Captures -/

def capture (_ : Context) (token : Token) (_ : List Token) : Option Capture :=
  match token.kind with
  | .word =>
      if token.isOneOf keywords then some .keyword
      else if token.isOneOf primitiveTypes then some .type
      else if token.isOneOf constants then some .constantBuiltin
      else if token.isText "this" then some .variableBuiltin
      else if token.isText "super" then some .functionBuiltin
      else some .variable
  | .character => some .string
  | .sign => if token.isText "@" then some .operator else none
  | _ => commonCapture? token

def grammar : Grammar := ⟨lexicon, arrange, contextPainter capture⟩

end Java
end Grammar
end Marginalia
