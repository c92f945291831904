import Marginalia.Grammar.Token

/-!
# The grammar of Python

Every name that is not a keyword is captured as a variable, whatever it stands
for. The word operators `is not` and `not in` are one token each.
-/

namespace Marginalia
namespace Grammar
namespace Python

def keywords : List String :=
  ["as", "assert", "async", "await", "break", "class", "continue", "def",
   "del", "elif", "else", "except", "finally", "for", "from", "global", "if",
   "import", "lambda", "nonlocal", "pass", "raise", "return", "try", "while",
   "with", "yield"]

def constants : List String := ["None", "True", "False"]

def wordOperators : List String := ["and", "in", "is", "not", "or"]

/-- The operators that are signs, longer ones first. -/
def operators : List String :=
  ["**=", "//=", "<<=", ">>=", "-=", "!=", "**", "*=", "//", "/=", "&=", "%=",
   "^=", "->", "+=", "<<", "<=", ":=", "==", ">=", ">>", "|=", "@=", "-", "*",
   "/", "&", "%", "^", "+", "<", "=", ">", "|", "~"]

/-- A string with its prefix. -/
def string : Reader := fun text =>
  let start := text.dropWhile fun c => "rRbBfFuU".toList.contains c
  let before := text.length - start.length
  let length := firstOf
    [quoted "\"\"\"", quoted "'''", quoted "\"", quoted "'"] start
  if length = 0 || 2 < before then 0 else before + length

def lexicon : Lexicon :=
  [(.blank, blanks), (.comment, lineComment "#"), (.string, string),
   (.number, pointNumber), (.word, word), (.sign, signs operators)]

/-- Put the two words of an operator into one token. -/
def joinOperators : List Token → List Token
  | first :: gap :: second :: rest =>
      if gap.kind = .blank &&
          (first.isText "is" && second.isText "not" ||
            first.isText "not" && second.isText "in") then
        ⟨.operator, first.text ++ gap.text ++ second.text⟩ :: joinOperators rest
      else first :: joinOperators (gap :: second :: rest)
  | tokens => tokens

def capture (_ : Context) (token : Token) (_ : List Token) : Option Capture :=
  match token.kind with
  | .word =>
      if token.isOneOf keywords then some .keyword
      else if token.isOneOf constants then some .constantBuiltin
      else if token.isOneOf wordOperators then some .operator
      else some .variable
  | .sign => if token.isOneOf operators then some .operator else none
  | _ => commonCapture? token

def grammar : Grammar := ⟨lexicon, joinOperators, contextPainter capture⟩

end Python
end Grammar
end Marginalia
