import Marginalia.FileSystem

/-!
# Input files

The input directory holds one directory per artifact, and that holds the
annotated files. Hidden entries do not count, nor do files directly in the
input directory or anything further down.

The names of entries are texts, and a directory that is there can be listed: a
name that is no text, or a listing that fails, is not among the cases.
-/

namespace Marginalia

/-- An annotated file of an artifact. -/
structure InputFile where
  artifact : Text
  path : Path
  deriving DecidableEq

namespace InputFile

/-- Whether an entry is hidden: its name starts with a dot. -/
def isHidden (name : Text) : Bool :=
  name.head? = some '.'

/-- The names in a directory that are not hidden and whose entries pass a
test, in increasing order. -/
def visibleNames (entries : List (Text × Entry)) (test : Entry → Bool) :
    List Text :=
  ((entries.filter fun (name, entry) => !isHidden name && test entry).map
    Prod.fst).mergeSort Text.isAtMost

/-- The input files below a directory at a location, artifact by artifact. -/
def below (files : FileSystem) (location : Location) (directory : Path) :
    List InputFile :=
  (visibleNames (files.children location) Entry.isDirectory).flatMap
    fun artifact =>
      let artifactPath := directory.join ⟨artifact⟩
      (visibleNames (files.children (location ++ [artifact]))
        fun entry => !entry.isDirectory).map
        fun name => ⟨artifact, artifactPath.join ⟨name⟩⟩

/-- The input files of an input directory. -/
def discover (files : FileSystem) (directory : Path) :
    Except Failure (List InputFile) :=
  let location? := (files.locate directory).toOption.filter fun location =>
    files.entry? location = some .directory
  match location? with
  | some location => .ok (below files location directory)
  | none => .error (.missingInput directory)

end InputFile

end Marginalia
