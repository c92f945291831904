import Marginalia.Grammar.Token

/-!
# The grammar of Bash

What a word is depends on its place: the first word of a command is its name,
the words after it are arguments, and keywords count only where a command can
start. An assigned name is a property, and so is the name of a variable that is
used outside of quotes.
-/

namespace Marginalia
namespace Grammar
namespace Bash

/-! ## Tokens -/

def isNameChar (c : Char) : Bool := c.isAlphanum || c = '_'

def endsWord (c : Char) : Bool :=
  isWhiteSpace c || "\"'\x60$;&|<>()".toList.contains c

/-- Blanks within a line; a backslash at the end of a line joins it to the next
one. -/
def lineBlanks : Reader := fun text =>
  match text with
  | '\\' :: '\n' :: _ => 2
  | _ => (text.takeWhile fun c => c = ' ' || c = '\t').length

/-- The length of a word; a backslash protects the character after it. -/
def wordLength (escaped : Bool) : Text → Nat
  | [] => 0
  | c :: rest =>
      if escaped then 1 + wordLength false rest
      else if endsWord c then 0
      else 1 + wordLength (c = '\\') rest

def afterIndex (text : Text) : Text :=
  match text with
  | '[' :: inner => (Text.afterFirst? "]" inner).getD text
  | _ => text

def assignedName : Reader := fun text =>
  let name := text.takeWhile isNameChar
  let starts := (name.head?.map fun c => !c.isDigit).getD false
  let rest := afterIndex (text.drop name.length)
  if starts && (Text.startsWith rest "=" || Text.startsWith rest "+=") then
    name.length
  else 0

/-- What encloses a piece of a quoted string. -/
inductive Enclosure where
  | quotes
  | plainQuotes
  | parentheses
deriving DecidableEq

/-- The enclosures, the innermost first, after a character that stands after
another one. A command in a string starts with a dollar sign and a
parenthesis, and can hold quotes of its own. -/
def enclosuresAfter (before c : Char) (inner : Enclosure)
    (outer : List Enclosure) : List Enclosure :=
  match inner with
  | .plainQuotes => if c = '\'' then outer else inner :: outer
  | .quotes =>
      if c = '"' then outer
      else if c = '(' && before = '$' then .parentheses :: inner :: outer
      else inner :: outer
  | .parentheses =>
      if c = ')' then outer
      else if c = '(' then .parentheses :: inner :: outer
      else if c = '"' then .quotes :: inner :: outer
      else if c = '\'' then .plainQuotes :: inner :: outer
      else inner :: outer

/-- The length of text up to the sign that closes the outermost enclosure. A
backslash protects the character after it, but not in plain quotes. -/
def enclosedLength (before : Char) : List Enclosure → Text → Nat
  | inner :: outer, c :: rest =>
      if before = '\\' && inner ≠ .plainQuotes then
        1 + enclosedLength ' ' (inner :: outer) rest
      else 1 + enclosedLength c (enclosuresAfter before c inner outer) rest
  | _, _ => 0

/-- A string in double quotes. -/
def string : Reader := fun text =>
  match text with
  | '"' :: inner => 1 + enclosedLength ' ' [.quotes] inner
  | _ => 0

/-- A string with escapes, which is not captured. -/
def escapedString : Reader := fun text =>
  match text with
  | '$' :: '\'' :: inner => 1 + quoted "'" ('\'' :: inner)
  | _ => 0

/-- A variable: a dollar sign before a name, before one special character or
before braces. -/
def dollarVariable : Reader := fun text =>
  match text with
  | '$' :: '\x7b' :: rest => 2 + lengthThrough "\x7d" rest
  | '$' :: c :: rest =>
      if isNameChar c then 1 + ((c :: rest).takeWhile isNameChar).length
      else if "?@*#!$-".toList.contains c then 2
      else 0
  | _ => 0

/-- The signs, longer ones first. -/
def allSigns : List String :=
  ["$((", "&>>", "<<<", "<<-", ";;&", "$(", "<(", ">(", "((", ";;", ";&", "&&",
   "||", "&>", ">>", ">&", ">|", "<<", "<&", "|&", ";", "&", "|", ">", "<", "(",
   ")", "\n", "\r\n", "\x60", "$"]

def lexicon : Lexicon :=
  [(.blank, lineBlanks), (.comment, lineComment "#"), (.string, string),
   (.string, verbatim "'"), (.plain, escapedString),
   (.variable, dollarVariable), (.word, assignedName),
   (.sign, signs allSigns), (.word, wordLength false)]

/-! ## Documents within a text -/

/-- The marks that end the documents announced on the first line, and the
number of tokens on the line, its end included. -/
def announced : List Token → List Text × Nat
  | [] => ([], 0)
  | token :: rest =>
      if token.hasLineEnd then ([], 1)
      else
        let (marks, count) := announced rest
        let mark? :=
          if token.isOneOf ["<<", "<<-"] then
            ((rest.dropWhile fun next => next.kind = .blank).head?).map
              fun next => next.text.filter fun c =>
                !"\"'\\".toList.contains c
          else none
        (mark?.toList ++ marks, count + 1)

/-- The length of a document up to the line that holds its mark, if there is
such a line. -/
def documentLength? (mark : Text) : Nat → Text → Option Nat
  | fuel + 1, c :: rest =>
      let line := (c :: rest).takeWhile (· ≠ '\n')
      if (line.dropWhile (· = '\t')).filter (· ≠ '\r') = mark then some 0
      else
        (documentLength? mark fuel ((c :: rest).drop (line.length + 1))).map
          (line.length + 1 + ·)
  | _, _ => none

/-- Take the documents of some marks from a text, each with the line of its
mark, and the text after them. -/
def takeDocuments (text : Text) : List Text → List Token × Text
  | [] => ([], text)
  | mark :: marks =>
      match documentLength? mark text.length text with
      | some length =>
          let after := text.drop length
          let line := after.takeWhile (· ≠ '\n')
          let lineEnd := if marks.isEmpty then 0 else 1
          let ending := after.take (line.length + lineEnd)
          let (others, final) :=
            takeDocuments (after.drop ending.length) marks
          (⟨.string, text.take length⟩ :: ⟨.plain, ending⟩ :: others, final)
      | none => ([], text)

/-- Read the tokens line by line and put the documents announced on a line into
tokens of their own. -/
def arrangeFrom : Nat → List Token → List Token
  | 0, tokens => tokens
  | _, [] => []
  | fuel + 1, tokens =>
      let (marks, count) := announced tokens
      let line := tokens.take count
      let rest := tokens.drop count
      if marks.isEmpty then line ++ arrangeFrom fuel rest
      else
        let text := rest.flatMap Token.text
        let (documents, after) := takeDocuments text marks
        line ++ documents ++ arrangeFrom fuel (lexicon.tokens after)

def arrange (tokens : List Token) : List Token :=
  arrangeFrom (tokens.length + 1) tokens

/-! ## Places -/

/-- Where a word stands. -/
inductive Place where
  | command
  | argument
  | plain
  | test
  | element
  | arithmetic
  | loopName
  | loopWords
  | caseSubject
  | casePattern
  | functionName
  | names
  | target
  | documentMark
deriving DecidableEq

/-- Keywords after which a command starts. -/
def commandKeywords : List String :=
  ["if", "then", "else", "elif", "while", "until", "do"]

/-- Keywords that end a compound command. -/
def endKeywords : List String := ["fi", "done", "esac"]

def declarationWords : List String :=
  ["declare", "local", "readonly", "typeset"]

def operators : List String := ["$", "&&", "|", ">", ">>", "<"]

/-- The signs before the target of a redirection. -/
def redirections : List String :=
  [">", ">>", "<", ">&", "<&", ">|", "&>", "&>>", "<<", "<<-", "<<<"]

/-- The state of the painter: the place of the next word, whether a word is
going on, whether it ends in the sign of an assignment, the places to return to
with the signs that close what is open, and the number of tokens that are
painted already. -/
structure State where
  place : Place
  inWord : Bool
  assigns : Bool
  outer : List (String × Place)
  painted : Nat

def isAssigned (rest : List Token) : Bool :=
  match rest with
  | next :: _ =>
      let value := afterIndex next.text
      next.kind = .word &&
        (Text.startsWith value "=" || Text.startsWith value "+=")
  | [] => false

/-- The capture of a word where a command can start, and the place after it. -/
def commandWord (token : Token) (rest : List Token) : Option Capture × Place :=
  if isAssigned rest then (some .property, .command)
  else if token.isOneOf commandKeywords then (some .keyword, .command)
  else if token.isOneOf endKeywords then (some .keyword, .plain)
  else if token.isOneOf ["for", "select"] then (some .keyword, .loopName)
  else if token.isText "case" then (some .keyword, .caseSubject)
  else if token.isText "function" then (some .keyword, .functionName)
  else if token.isOneOf ["export", "unset"] then (some .keyword, .names)
  else if token.isOneOf declarationWords then (none, .names)
  else if token.isOneOf ["\x7b", "\x7d", "!"] then (none, .command)
  else if token.isText "[" then (none, .plain)
  else if token.isText "[[" then (none, .test)
  else (some .function, .argument)

/-- The capture of a word at a place, and the place after it. -/
def wordAt (token : Token) (rest : List Token) :
    Place → Option Capture × Place
  | .command => commandWord token rest
  | .argument =>
      (if token.text.head? = some '-' then some .constant else none, .argument)
  | .plain => (none, .plain)
  | .test => (none, if token.isText "]]" then .plain else .test)
  | .element => (none, .element)
  | .arithmetic => (none, .arithmetic)
  | .loopName => (some .property, .loopWords)
  | .loopWords =>
      if token.isText "in" then (some .keyword, .plain)
      else if token.isText "do" then (some .keyword, .command)
      else (none, .loopWords)
  | .caseSubject =>
      if token.isText "in" then (some .keyword, .casePattern)
      else (none, .caseSubject)
  | .casePattern =>
      if token.isText "esac" then (some .keyword, .plain)
      else (none, .casePattern)
  | .functionName => (some .function, .command)
  | .names =>
      if isAssigned rest || token.text.all isNameChar then
        (some .property, .names)
      else (none, .names)
  | .target => (none, .argument)
  | .documentMark => (some .string, .argument)

/-- The place after a word that is not plain text. -/
def afterOther : Place → Place
  | .command => .argument
  | .target => .argument
  | .documentMark => .argument
  | place => place

/-! ## Signs -/

/-- The place to return to when what opens in a state closes. -/
def State.resumed (state : State) : Place :=
  if state.inWord then state.place else afterOther state.place

/-- The place after an opening parenthesis and the places to return to. -/
def afterOpening (state : State) (rest : List Token) :
    Place × List (String × Place) :=
  if state.assigns then (.element, (")", state.place) :: state.outer)
  else if state.place = .arithmetic || state.place = .test ||
      state.place = .casePattern then
    (state.place,
      if state.place = .casePattern then state.outer
      else (")", state.place) :: state.outer)
  else if (significant? rest).any (·.isText ")") then
    (.command, (")", .command) :: state.outer)
  else (.command, (")", .plain) :: state.outer)

def afterClosing (state : State) (closing : String) :
    Place × List (String × Place) :=
  match state.outer with
  | (expected, place) :: outer =>
      if expected = closing then (place, outer) else (.command, state.outer)
  | [] => (.command, [])

/-- The places that no sign ends but the one that closes them. -/
def lastingPlaces : List Place :=
  [.arithmetic, .test, .element, .caseSubject, .casePattern]

/-- The place after a sign, and the places to return to. -/
def signAt (state : State) (token : Token) (rest : List Token) :
    Place × List (String × Place) :=
  if token.isOneOf ["$(", "<(", ">("] then
    (.command, (")", state.resumed) :: state.outer)
  else if token.isOneOf ["$((", "(("] then
    (.arithmetic,
      (")", .arithmetic) ::
        (")", if token.isText "((" then .plain else state.resumed) ::
        state.outer)
  else if token.isText "\x60" then
    if state.outer.head?.any (·.1 = "\x60") then afterClosing state "\x60"
    else (.command, ("\x60", state.resumed) :: state.outer)
  else if token.isText "(" then afterOpening state rest
  else if token.isText ")" then
    if state.place = .casePattern then (.command, state.outer)
    else afterClosing state ")"
  else if token.isOneOf [";;", ";&", ";;&"] then (.casePattern, state.outer)
  else if token.isText "$" || lastingPlaces.contains state.place then
    (state.place, state.outer)
  else if token.isOneOf ["<<", "<<-"] then (.documentMark, state.outer)
  else if token.isOneOf redirections then (.target, state.outer)
  else (.command, state.outer)

/-! ## Pieces -/

/-- The pieces of an expression: its names are properties. -/
def arithmeticPieces : Nat → Text → List Painted
  | fuel + 1, c :: rest =>
      let isName := isNameChar c && !c.isDigit
      let piece :=
        if isName then (c :: rest).takeWhile isNameChar
        else (c :: rest).takeWhile fun d => !isNameChar d || d.isDigit
      ⟨piece, if isName then some .property else none⟩ ::
        arithmeticPieces fuel ((c :: rest).drop piece.length)
  | _, text => [⟨text, none⟩]

/-- The pieces of a variable in braces: its name is a property. -/
def bracedPieces (text : Text) : List Painted :=
  let mark := text.takeWhile fun c => c = '#' || c = '!'
  let rest := text.drop mark.length
  let name := rest.takeWhile isNameChar
  [⟨"$\x7b" ++ mark, none⟩,
    ⟨name, if name.isEmpty then none else some .property⟩,
    ⟨rest.drop name.length, none⟩]

def variablePieces (text : Text) : List Painted :=
  match text with
  | '$' :: '\x7b' :: rest => bracedPieces rest
  | '$' :: rest =>
      [⟨"$", some .operator⟩,
        ⟨rest, if rest.all isNameChar then some .property else none⟩]
  | _ => [⟨text, none⟩]

def sameWord (rest : List Token) : List Token :=
  rest.takeWhile fun next =>
    next.kind = .word || next.kind = .string || next.kind = .variable

def paintWhole (state : State) (token : Token) (rest : List Token)
    (capture : Capture) (place : Place) : List Painted × State :=
  let others := sameWord rest
  ([⟨token.text ++ others.flatMap Token.text, some capture⟩],
    { state with
      place := place
      inWord := true
      assigns := false
      painted := others.length })

/-- Whether a word is the number of a file before a redirection. -/
def isFileNumber (token : Token) (rest : List Token) : Bool :=
  token.text.all Char.isDigit && rest.head?.any (·.isOneOf redirections)

def stepWord (state : State) (token : Token) (rest : List Token) :
    List Painted × State :=
  if state.place = .arithmetic then
    (arithmeticPieces token.text.length token.text, state)
  else if state.inWord then
    ([⟨token.text, none⟩],
      { state with assigns := token.text.getLast? = some '=' })
  else if isFileNumber token rest then
    ([⟨token.text, some .number⟩], { state with inWord := true })
  else
    let (capture?, place) := wordAt token rest state.place
    match capture? with
    | some .function => paintWhole state token rest .function place
    | some .constant => paintWhole state token rest .constant place
    | _ =>
        ([⟨token.text, capture?⟩],
          { state with place := place, inWord := true, assigns := false })

/-- The state after a string or a variable. -/
def State.afterPiece (state : State) : State :=
  { state with
    place := state.resumed
    inWord := true
    assigns := false }

def step (state : State) (token : Token) (rest : List Token) :
    List Painted × State :=
  match state.painted with
  | count + 1 => ([], { state with painted := count })
  | 0 =>
      match token.kind with
      | .blank =>
          ([⟨token.text, none⟩],
            { state with inWord := false, assigns := false })
      | .comment => ([⟨token.text, some .comment⟩], state)
      | .word => stepWord state token rest
      | .string => ([⟨token.text, some .string⟩], state.afterPiece)
      | .plain => ([⟨token.text, none⟩], state.afterPiece)
      | .variable =>
          if state.place = .command && !state.inWord then
            paintWhole state token rest .function .argument
          else (variablePieces token.text, state.afterPiece)
      | _ =>
          let (place, outer) := signAt state token rest
          let capture? :=
            if token.isOneOf operators then some .operator else none
          ([⟨token.text, capture?⟩], ⟨place, false, false, outer, 0⟩)

def painter : Painter where
  State := State
  start _ := ⟨.command, false, false, [], 0⟩
  step := step

def grammar : Grammar := ⟨lexicon, arrange, painter⟩

end Bash
end Grammar
end Marginalia
