import Marginalia.Text.Basic

/-!
# HTML escaping

Five characters are significant in HTML text and in quoted attribute values.
Escaping writes each of them as an entity, and `unescape` reads the entities
back from left to right.

A page is a list of pieces. Markup is written as it stands and a value is
escaped, so that a value never adds markup of its own.
-/

namespace Marginalia.Html

/-- The entity of a significant character, and any other character itself. -/
def escapeChar (c : Char) : Text :=
  if c = '&' then ['&', 'a', 'm', 'p', ';']
  else if c = '<' then ['&', 'l', 't', ';']
  else if c = '>' then ['&', 'g', 't', ';']
  else if c = '"' then ['&', 'q', 'u', 'o', 't', ';']
  else if c = '\'' then ['&', '#', '3', '9', ';']
  else [c]

def escape (text : Text) : Text :=
  text.flatMap escapeChar

/-- Append a text to some HTML, escaped, one character after the other. The HTML
is held with its end first while it grows. -/
def appendEscaped (html text : Text) : Text :=
  (text.foldl (fun grown c => (escapeChar c).reverse ++ grown)
    html.reverse).reverse

/-- Read the five entities back, from left to right. -/
def unescape : Text → Text
  | '&' :: 'a' :: 'm' :: 'p' :: ';' :: rest => '&' :: unescape rest
  | '&' :: 'l' :: 't' :: ';' :: rest => '<' :: unescape rest
  | '&' :: 'g' :: 't' :: ';' :: rest => '>' :: unescape rest
  | '&' :: 'q' :: 'u' :: 'o' :: 't' :: ';' :: rest => '"' :: unescape rest
  | '&' :: '#' :: '3' :: '9' :: ';' :: rest => '\'' :: unescape rest
  | c :: rest => c :: unescape rest
  | [] => []

/-! ## Pieces -/

/-- Markup, or a value to be shown. -/
inductive Piece where
  | markup (html : Text)
  | value (text : Text)
  deriving DecidableEq

def Piece.render : Piece → Text
  | .markup html => html
  | .value text => escape text

def render (pieces : List Piece) : Text :=
  pieces.flatMap Piece.render

end Marginalia.Html
