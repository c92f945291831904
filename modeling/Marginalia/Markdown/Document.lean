import Marginalia.Text.Basic

/-!
# Documents

The parts of a Markdown document: inline content and blocks. A block carries
its content as a parameter, so that the same trees serve before and after the
inline content of the document is read.
-/

namespace Marginalia
namespace Markdown

/-- Inline content of a paragraph, a heading or a table cell. -/
inductive Inline where
  | text (content : Text)
  | code (content : Text)
  | html (content : Text)
  | softBreak
  | hardBreak
  | footnote (name : Text)
  | emphasis (children : List Inline)
  | strong (children : List Inline)
  | strikethrough (children : List Inline)
  | link (target title : Text) (children : List Inline)
  | image (target title : Text) (children : List Inline)
deriving Inhabited

/-- How the cells of a table column are aligned. -/
inductive Alignment where
  | unset
  | left
  | center
  | right
deriving DecidableEq, Inhabited

/-- A task marker stands before the content of a paragraph of a list item. -/
structure Lines (content : Type) where
  task? : Option Bool
  content : content
deriving Inhabited

/-- A block of a document. The children of a list are its items. -/
inductive Block (content : Type) where
  | paragraph (lines : Lines content)
  | heading (level : Nat) (lines : Lines content)
  | code (info : Text) (content : Text)
  | html (content : Text)
  | thematicBreak
  | table (alignments : List Alignment) (header : List content)
      (rows : List (List content))
  | quote (children : List (Block content))
  | list (start? : Option Nat) (tight : Bool) (children : List (Block content))
  | item (children : List (Block content))
  | footnote (name : Text) (children : List (Block content))
  | taskMarker (checked : Bool)
deriving Inhabited

mutual

def Block.map {α β : Type} (change : α → β) : Block α → Block β
  | .paragraph lines => .paragraph ⟨lines.task?, change lines.content⟩
  | .heading level lines => .heading level ⟨lines.task?, change lines.content⟩
  | .code info content => .code info content
  | .html content => .html content
  | .thematicBreak => .thematicBreak
  | .table alignments header rows =>
      .table alignments (header.map change) (rows.map (List.map change))
  | .quote children => .quote (Block.mapAll change children)
  | .list start? tight children =>
      .list start? tight (Block.mapAll change children)
  | .item children => .item (Block.mapAll change children)
  | .footnote name children => .footnote name (Block.mapAll change children)
  | .taskMarker checked => .taskMarker checked

def Block.mapAll {α β : Type} (change : α → β) :
    List (Block α) → List (Block β)
  | [] => []
  | block :: blocks => block.map change :: Block.mapAll change blocks

end

end Markdown
end Marginalia
