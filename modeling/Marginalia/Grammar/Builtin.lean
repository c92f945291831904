import Marginalia.Grammar.Bash
import Marginalia.Grammar.C
import Marginalia.Grammar.Go
import Marginalia.Grammar.Java
import Marginalia.Grammar.Python
import Marginalia.Grammar.Rust
import Marginalia.Highlight.Span
import Marginalia.Language.Registry

/-!
# The built-in grammars

A highlighter is made for a table of languages, each of which needs a grammar.
It highlights the languages of the table and no others.
-/

namespace Marginalia
namespace Grammar

/-- The grammars by the names of their languages. -/
def builtin : List (Text × Grammar) :=
  [("go", Go.grammar), ("python", Python.grammar), ("rust", Rust.grammar),
   ("c", C.grammar), ("java", Java.grammar), ("bash", Bash.grammar)]

def byName? (name : Text) : Option Grammar :=
  (builtin.find? fun row => row.1 = name).map Prod.snd

/-- Highlight code with the grammar of its language, if the table holds the
language. -/
def highlightIn (registry : Registry) : Highlighter := fun language code =>
  match (registry.byName? language.name).bind fun _ =>
      byName? language.name with
  | some grammar => .ok (Highlight.renderSpans code (grammar.spans code))
  | none => .error (.unknownGrammar language.name)

/-- The highlighter of a table of languages. The first language without a
grammar is an error. -/
def highlighter (registry : Registry) : Except HighlightError Highlighter :=
  match registry.languages.find? fun language =>
      (byName? language.name).isNone with
  | some language => .error (.unknownGrammar language.name)
  | none => .ok (highlightIn registry)

end Grammar
end Marginalia
