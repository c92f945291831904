import Marginalia.Failure
import Marginalia.Language.Basic
import Marginalia.Text.Lines

/-!
# Headers

The header of a file is the run of header lines at its top. The first line
that is not a header line ends it, and nothing after that line counts. Of
several lines with one key the last one counts; a commit date that cannot be
read fails at once.
-/

namespace Marginalia

/-- The values that a header gives. -/
structure Header where
  commit? : Option Text := none
  commitDate? : Option (CalendarDate × Text) := none
  sourceFile? : Option Text := none
  sourceLink? : Option Text := none
  docAuthor? : Option Text := none
  /-- The number of header lines. -/
  lineCount : Nat := 0
  deriving DecidableEq

namespace Header

def has (header : Header) : HeaderField → Bool
  | .commit => header.commit?.isSome
  | .commitDate => header.commitDate?.isSome
  | .sourceFile => header.sourceFile?.isSome
  | .sourceLink => header.sourceLink?.isSome
  | .docAuthor => header.docAuthor?.isSome

/-- The fields that a header lacks, in canonical order. -/
def missing (header : Header) : List HeaderField :=
  HeaderField.all.filter fun field => !header.has field

def set (header : Header) (field : HeaderField) (value : Text) :
    Except CommitDateError Header :=
  match field with
  | .commit => .ok { header with commit? := some value }
  | .commitDate =>
      match CommitDate.parse value with
      | .ok date => .ok { header with commitDate? := some (date, value) }
      | .error fault => .error fault
  | .sourceFile => .ok { header with sourceFile? := some value }
  | .sourceLink => .ok { header with sourceLink? := some value }
  | .docAuthor => .ok { header with docAuthor? := some value }

def nextLine (header : Header) : Header :=
  { header with lineCount := header.lineCount + 1 }

/-- Read header lines onto a header. -/
def scanLines (language : Language) (path : Path) (header : Header) :
    List Text → Except Failure Header
  | [] => .ok header
  | line :: rest =>
      match language.headerLine? line with
      | none => .ok header
      | some (key, value) =>
          match HeaderField.ofKey? key with
          -- A line with an unknown key belongs to the header all the same.
          | none => scanLines language path header.nextLine rest
          | some field =>
              match header.set field value with
              | .ok updated => scanLines language path updated.nextLine rest
              | .error fault => .error (.invalidCommitDate path value fault)

def scan (language : Language) (path : Path) (contents : Text) :
    Except Failure Header :=
  scanLines language path {} contents.lines

/-- What reading header lines reports: unknown keys, and the line of a commit
date that cannot be read. -/
def logLines (language : Language) (path : Path) (lineNumber : Nat) :
    List Text → Log
  | [] => []
  | line :: rest =>
      match language.headerLine? line with
      | none => []
      | some (key, value) =>
          match HeaderField.ofKey? key with
          | none =>
              ⟨.debug, path.text ++ ":" ++ Text.ofNat lineNumber ++
                ": ignoring unknown header " ++ key.quoted⟩ ::
                logLines language path (lineNumber + 1) rest
          | some .commitDate =>
              match CommitDate.parse value with
              | .ok _ => logLines language path (lineNumber + 1) rest
              | .error _ => [⟨.warn, "Error parsing line: " ++ line⟩]
          | some _ => logLines language path (lineNumber + 1) rest

def log (language : Language) (path : Path) (contents : Text) : Log :=
  logLines language path 1 contents.lines

/-- The snapshot of a header that has all fields. -/
def snapshot? (header : Header) (artifact : Text) (path : Path) :
    Option Snapshot := do
  let commit ← header.commit?
  let (date, dateText) ← header.commitDate?
  let sourceFile ← header.sourceFile?
  let sourceLink ← header.sourceLink?
  let author ← header.docAuthor?
  some {
    artifact := artifact
    commit := commit
    date := date
    dateText := dateText
    sourceFile := sourceFile
    sourceLink := sourceLink
    author := author
    docFile := path
    firstCodeLine := header.lineCount }

/-- Read the header of a file as a snapshot. -/
def parse (language : Language) (artifact : Text) (path : Path)
    (contents : Text) : Except Failure Snapshot :=
  match scan language path contents with
  | .error failure => .error failure
  | .ok header =>
      match header.snapshot? artifact path with
      | some snapshot => .ok snapshot
      | none => .error (.missingHeaders path header.missing)

end Header

end Marginalia
