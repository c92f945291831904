import Marginalia.Html.Escape
import Marginalia.Language.Basic
import Marginalia.Text.Quoted

/-!
# Highlighted code

A highlighter turns the code of a language into HTML in its container, or says
why it cannot.

A span gives a class to a range of bytes. Rendering takes the spans in the
order in which they are listed. A span is passed over when it starts before
the end of an accepted one, is reversed, leaves the code or cuts a character.
The code thereby falls into segments: the accepted spans and the plain text
between them.
-/

namespace Marginalia

/-- Why code is not highlighted. A grammar and its query may be rejected when
they are loaded, with a fault of the parser's own. -/
inductive HighlightError where
  | unknownGrammar (language : Text)
  | incompatibleGrammar (language fault : Text)
  | invalidQuery (language fault : Text)
  | unparsable (language : Text)
  deriving DecidableEq

namespace HighlightError

def message : HighlightError → Text
  | .unknownGrammar language =>
      "no grammar available for language " ++ language.quoted
  | .incompatibleGrammar language fault =>
      "incompatible grammar for " ++ language ++ ": " ++ fault
  | .invalidQuery language fault =>
      "invalid highlight query for " ++ language ++ ": " ++ fault
  | .unparsable language =>
      "tree-sitter could not parse " ++ language ++ " source"

/-- The messages of what lies behind an error. -/
def causes : HighlightError → List Text
  | .incompatibleGrammar _ fault => [fault]
  | .invalidQuery _ fault => [fault]
  | _ => []

end HighlightError

abbrev Highlighter := Language → Text → Except HighlightError Text

namespace Highlight

/-! ## The container -/

/-- The opening tags of highlighted code. -/
def containerStart : Text := "<div class=\"highlight\"><pre>"

/-- The closing tags of highlighted code. -/
def containerEnd : Text := "</pre></div>"

def wrap (html : Text) : Text :=
  containerStart ++ html ++ containerEnd

/-- Take HTML out of the container. Each end is removed once, if it is
there. -/
def unwrap (html : Text) : Text :=
  let inner := (Text.after? containerStart html).getD html
  (Text.before? containerEnd inner).getD inner

/-! ## Spans -/

/-- A class for the bytes from `start` up to `stop`. -/
structure Span where
  start : Nat
  stop : Nat
  className : Text
  deriving DecidableEq

/-- A piece of code with an optional class. -/
structure Segment where
  text : Text
  className? : Option Text
  deriving DecidableEq

namespace Segment

/-- A segment as HTML: escaped text, inside a token when it has a class. -/
def render (segment : Segment) : Text :=
  match segment.className? with
  | none => Html.escape segment.text
  | some name =>
      "<span class=\"" ++ name ++ "\">" ++ Html.escape segment.text ++
        "</span>"

end Segment

/-- The text before a span and the text of the span, and what follows it, in
the code that is left after the first `position` bytes. -/
def Span.cut? (span : Span) (position : Nat) (code : Text) :
    Option (Text × Text × Text) :=
  if position ≤ span.start ∧ span.start ≤ span.stop then do
    let (before, fromStart) ← Text.cutAtByte? code (span.start - position)
    let (inside, after) ← Text.cutAtByte? fromStart (span.stop - span.start)
    some (before, inside, after)
  else none

/-- The segments of the code that is left after the first `position` bytes. -/
def segmentsFrom (position : Nat) (code : Text) : List Span → List Segment
  | [] => [⟨code, none⟩]
  | span :: spans =>
      match span.cut? position code with
      | some (before, inside, after) =>
          ⟨before, none⟩ :: ⟨inside, some span.className⟩ ::
            segmentsFrom span.stop after spans
      -- A span that is passed over uses up no code, so the next one may fit.
      | none => segmentsFrom position code spans

def segments (code : Text) (spans : List Span) : List Segment :=
  segmentsFrom 0 code spans

/-- Code as HTML in its container, with a token for each accepted span. -/
def renderSpans (code : Text) (spans : List Span) : Text :=
  wrap ((segments code spans).flatMap Segment.render)

end Highlight

end Marginalia
