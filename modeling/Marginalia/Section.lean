import Marginalia.Language.Basic
import Marginalia.Text.Lines

/-!
# Sections

The body of a file is a list of sections: comment lines, which are the prose
of the section, and the code lines after them. A comment line after code starts
the next section.
-/

namespace Marginalia

/-- Prose and code of a section, as written and as HTML. -/
structure Section where
  docs : Text := []
  code : Text := []
  docsHtml : Text := []
  codeHtml : Text := []
  deriving DecidableEq

namespace Section

def addComment (language : Language) (part : Section) (line : Text) : Section :=
  { part with docs := part.docs ++ language.stripComment line ++ ['\n'] }

def addCode (part : Section) (line : Text) : Section :=
  { part with code := part.code ++ line ++ ['\n'] }

/-- The sections of some lines, when a section is already begun. -/
def ofLinesFrom (language : Language) (current : Section) (hasCode : Bool) :
    List Text → List Section
  | [] => [current]
  | line :: rest =>
      if language.isComment line then
        if hasCode then
          current ::
            ofLinesFrom language (addComment language {} line) false rest
        else ofLinesFrom language (current.addComment language line) false rest
      else ofLinesFrom language (current.addCode line) true rest

/-- The sections of a file from a line on. There is always at least one. -/
def parse (language : Language) (contents : Text) (firstLine : Nat) :
    List Section :=
  ofLinesFrom language {} false (contents.lines.drop firstLine)

end Section

end Marginalia
