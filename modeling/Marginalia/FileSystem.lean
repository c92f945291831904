import Marginalia.Failure
import Marginalia.FileSystem.Tree

/-!
# File systems

A file system is a tree of entries. Paths are looked up name by name, and each
operation fails as soon as a name on the way is missing or is no directory.
-/

namespace Marginalia

/-- The entries of a tree, and the location from which relative paths start. -/
@[ext]
structure FileSystem where
  entries : Entries := []
  workingDirectory : Location := []
  isTree : entries.IsTree := by exact of_decide_eq_true rfl
  deriving DecidableEq

namespace FileSystem

/-! ## Entries -/

def entry? (files : FileSystem) (location : Location) : Option Entry :=
  files.entries.entry? location

/-- Put an entry at a location, in place of the file that stands there. Where no
entry can stand, nothing changes. -/
def put (files : FileSystem) (location : Location) (entry : Entry) :
    FileSystem :=
  if admits : files.entries.Admits location then
    { files with
      entries := files.entries.put location entry
      isTree := files.isTree.put admits entry }
  else files

def children (files : FileSystem) (location : Location) : List (Text × Entry) :=
  files.entries.filterMap fun (other, entry) =>
    match other.getLast? with
    | some name => if other.dropLast = location then some (name, entry) else none
    | none => none

/-! ## Paths -/

/-- The location of a name in a directory. -/
def enter (files : FileSystem) (directory : Location) (name : Text) :
    Except FileFault Location :=
  match files.entry? directory with
  | none => .error .notFound
  | some (.file _) => .error .notDirectory
  | some .directory =>
      if name.isEmpty || name = ['.'] then .ok directory
      else if name = ['.', '.'] then .ok directory.dropLast
      else .ok (directory ++ [name])

def start (files : FileSystem) (path : Path) : Location :=
  if path.isAbsolute then [] else files.workingDirectory

/-- The location that a path names; nothing needs to stand there. -/
def locate (files : FileSystem) (path : Path) : Except FileFault Location :=
  if path.text.isEmpty then .error .notFound
  else (Text.splitAtEach '/' path.text).foldlM files.enter (files.start path)

def find (files : FileSystem) (path : Path) : Except FileFault Entry := do
  match files.entry? (← files.locate path) with
  | some entry => return entry
  | none => throw .notFound

def names (files : FileSystem) (path : Path) : Bool :=
  (files.find path).toOption.isSome

def isDirectory (files : FileSystem) (path : Path) : Bool :=
  (files.find path).toOption.any Entry.isDirectory

def isFile (files : FileSystem) (path : Path) : Bool :=
  (files.find path).toOption.any fun entry => !entry.isDirectory

/-- A place where an entry may be made. -/
structure Target where
  location : Location
  /-- Whether the path ends in a slash. -/
  endsInSlash : Bool
  /-- Whether the last name is one that always stands for a directory. -/
  isGiven : Bool

/-- The place that a path names in a directory that exists. -/
def target (files : FileSystem) (path : Path) : Except FileFault Target :=
  let written := (Text.splitAtEach '/' path.text).reverse
  match written.dropWhile List.isEmpty with
  | [] =>
      -- Nothing but slashes is the root.
      if path.text.isEmpty then .error .notFound else .ok ⟨[], true, true⟩
  | last :: before => do
      let directory ← before.reverse.foldlM files.enter (files.start path)
      let location ← files.enter directory last
      return ⟨location, written.head?.any List.isEmpty,
        last = ['.'] || last = ['.', '.']⟩

/-! ## Reading and writing -/

def readText (files : FileSystem) (path : Path) : Except FileFault Text := do
  match ← files.find path with
  | .directory => throw .isDirectory
  | .file (.binary _) => throw .notText
  | .file (.text text) => return text

/-- Write a file in a directory that exists. -/
def write (files : FileSystem) (path : Path) (contents : Contents) :
    Except FileFault FileSystem := do
  let target ← files.target path
  if target.endsInSlash || target.isGiven then throw .isDirectory
  match files.entry? target.location with
  | some .directory => throw .isDirectory
  | _ => return files.put target.location (.file contents)

/-- Make a directory in a directory that exists. -/
def makeDirectory (files : FileSystem) (path : Path) :
    Except FileFault FileSystem := do
  let target ← files.target path
  if target.isGiven then throw .alreadyExists
  match files.entry? target.location with
  | some _ => throw .alreadyExists
  | none => return files.put target.location .directory

/-- Make a directory, where one that exists already will do. -/
def ensureDirectory (files : FileSystem) (path : Path) :
    Except FileFault FileSystem :=
  match files.makeDirectory path with
  | .ok made => .ok made
  | .error fault => if files.isDirectory path then .ok files else .error fault

/-- Make a directory and the directories on the way to it, at most `depth` of
them. Those made before a fault stay. -/
def makeDirectoriesFrom :
    Nat → FileSystem → Path → Except FileFault Unit × FileSystem
  | 0, files, _ => (.ok (), files)
  | depth + 1, files, path =>
      let settle (files : FileSystem) : Except FileFault Unit × FileSystem :=
        match files.ensureDirectory path with
        | .ok made => (.ok (), made)
        | .error fault => (.error fault, files)
      if path.text.isEmpty then (.ok (), files)
      else
        match files.makeDirectory path, path.parent? with
        | .error .notFound, some parent =>
            match makeDirectoriesFrom depth files parent with
            | (.error fault, files) => (.error fault, files)
            | (.ok _, files) => settle files
        | .error .notFound, none =>
            (.error (.other "failed to create whole tree"), files)
        -- Any other fault may mean that the directory is there already.
        | _, _ => settle files

/-- Make a directory and the directories on the way to it. -/
def makeDirectories (files : FileSystem) (path : Path) :
    Except FileFault Unit × FileSystem :=
  makeDirectoriesFrom (path.text.length + 1) files path

end FileSystem

end Marginalia
