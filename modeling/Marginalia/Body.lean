import Marginalia.Highlight.Span
import Marginalia.Language.Divider
import Marginalia.Section

/-!
# The body of a page

A highlighter needs the whole code of a file, so the code of all sections is
joined with divider lines between and highlighted at once. The dividers in the
result tell where the HTML of each section ends.
-/

namespace Marginalia

/-- What turns the prose of a section into HTML. -/
abbrev MarkdownRenderer := Text → Text

namespace Body

/-- The code of all sections with a divider line between two of them. -/
def joinCode (language : Language) (codes : List Text) : Text :=
  Text.joined language.dividerText codes

/-- A section with the HTML of its code, in the container, and of its prose. -/
def withHtml (markdown : MarkdownRenderer) (part : Section) (fragment : Text) :
    Section :=
  { part with
    docsHtml := markdown part.docs
    codeHtml := Highlight.wrap fragment }

/-- Highlight all sections at once. The answer holds the number of dividers
found in the highlighted code; with fewer than there are between the sections,
the last sections have no code. -/
def highlight (language : Language) (highlighter : Highlighter)
    (markdown : MarkdownRenderer) (sections : List Section) :
    Except HighlightError (List Section × Nat) := do
  let code := joinCode language (sections.map Section.code)
  let html ← highlighter language code
  let (fragments, found) :=
    Divider.split language.renderedDivider sections.length
      (Highlight.unwrap html)
  -- There are as many fragments as sections, so no section is lost.
  return (List.zipWith (withHtml markdown) sections fragments, found)

end Body
end Marginalia
