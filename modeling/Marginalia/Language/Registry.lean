import Marginalia.Language.Basic
import Marginalia.Path
import Marginalia.Text.Lowercase

/-!
# The language registry

Languages are looked up in a table. Each extension leads to one row of the
table: a later row takes over the extensions of an earlier one. The first row
of a name keeps the name.
-/

namespace Marginalia

/-- The rows to which extensions lead, with one entry for each extension. -/
structure ExtensionIndex where
  entries : List (Text × Nat)
  distinct : (entries.map Prod.fst).Nodup

namespace ExtensionIndex

def empty : ExtensionIndex :=
  ⟨[], List.nodup_nil⟩

/-- Lead an extension to a row, in place of the row to which it led. -/
def enter (row : Nat) (index : ExtensionIndex) (extension : Text) :
    ExtensionIndex where
  entries :=
    (extension, row) ::
      index.entries.filter fun entry => entry.1 != extension
  distinct := by
    refine List.nodup_cons.mpr ⟨by simp, ?_⟩
    exact index.distinct.sublist (List.filter_sublist.map Prod.fst)

def enterRow (index : ExtensionIndex) (numbered : Language × Nat) :
    ExtensionIndex :=
  numbered.1.extensions.foldl (enter numbered.2) index

def row? (index : ExtensionIndex) (extension : Text) : Option Nat :=
  index.entries.lookup extension

end ExtensionIndex

/-- A table of languages. -/
structure Registry where
  languages : List Language

namespace Registry

/-- The rows of the table by extension, entered row after row. -/
def index (registry : Registry) : ExtensionIndex :=
  registry.languages.zipIdx.foldl .enterRow .empty

/-- The language to whose row an extension leads, whatever its letter case. -/
def ofExtension? (registry : Registry) (extension : Text) : Option Language :=
  (registry.index.row? extension.lowercase).bind fun row =>
    registry.languages[row]?

/-- The language of a file, by its extension. -/
def ofPath? (registry : Registry) (path : Path) : Option Language :=
  path.extension?.bind registry.ofExtension?

/-- The first language of a name. -/
def byName? (registry : Registry) (name : Text) : Option Language :=
  registry.languages.find? fun language => language.name == name

/-- The languages that are known without any table. -/
def builtin : Registry :=
  ⟨[⟨"go", "//", ["go"]⟩,
    ⟨"python", "#", ["py"]⟩,
    ⟨"rust", "//", ["rs"]⟩,
    ⟨"c", "//", ["c", "h"]⟩,
    ⟨"java", "//", ["java"]⟩,
    ⟨"bash", "#", ["sh", "bash"]⟩]⟩

end Registry

end Marginalia
