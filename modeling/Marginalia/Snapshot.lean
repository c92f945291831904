import Marginalia.CommitDate
import Marginalia.Path

/-!
# Snapshots

A snapshot is one documented revision of an artifact. Its metadata comes from
the header of the annotated file.
-/

namespace Marginalia

/-- The header fields that every snapshot has, in canonical order. -/
inductive HeaderField where
  | commit
  | commitDate
  | sourceFile
  | sourceLink
  | docAuthor
  deriving DecidableEq

namespace HeaderField

def all : List HeaderField :=
  [.commit, .commitDate, .sourceFile, .sourceLink, .docAuthor]

def key : HeaderField → Text
  | .commit => "Commit"
  | .commitDate => "CommitDate"
  | .sourceFile => "SourceFile"
  | .sourceLink => "SourceLink"
  | .docAuthor => "DocAuthor"

def ofKey? (key : Text) : Option HeaderField :=
  all.find? fun field => field.key == key

end HeaderField

/-- One documented revision of an artifact. -/
structure Snapshot where
  /-- The directory that groups the revisions. -/
  artifact : Text
  commit : Text
  date : CalendarDate
  /-- The commit date as the header writes it. -/
  dateText : Text
  /-- The documented file in its own repository. -/
  sourceFile : Text
  sourceLink : Text
  author : Text
  /-- The annotated file. -/
  docFile : Path
  /-- The number of header lines. -/
  firstCodeLine : Nat
  deriving DecidableEq

namespace Snapshot

/-- The file name of the page: that of the annotated file with `.html` for its
last extension. -/
def pageName (snapshot : Snapshot) : Text :=
  snapshot.docFile.fileStem?.getD [] ++ ".html"

/-- Where the page of the snapshot is written. -/
def destination (snapshot : Snapshot) (output : Path) : Path :=
  (output.join ⟨snapshot.artifact⟩).join ⟨snapshot.pageName⟩

def title (snapshot : Snapshot) : Text :=
  Path.baseName snapshot.sourceFile

end Snapshot

end Marginalia
