import Marginalia.Text.Basic

/-!
# Paths

A path is written with `/` between its names. Empty names and `.` inside a
path mean nothing, so `a//b/.` has the components `a` and `b`; a leading `/`
is the root.
-/

namespace Marginalia

/-- A path as it is written. -/
structure Path where
  text : Text
  deriving DecidableEq

instance : Coe String Path := ⟨fun written => ⟨written.toList⟩⟩

namespace Path

def isAbsolute (path : Path) : Bool :=
  path.text.startsWith ['/']

/-- Put a path below another one. An absolute path stands for itself. -/
def join (base relative : Path) : Path :=
  if relative.isAbsolute then relative
  else if base.text.isEmpty || base.text.getLast? == some '/' then
    ⟨base.text ++ relative.text⟩
  else ⟨base.text ++ ['/'] ++ relative.text⟩

/-- The written names between the slashes, the last one first. -/
def namesFromEnd (path : Path) : List Text :=
  (path.text.splitAtEach '/').reverse

/-- Drop names at the end that mean nothing. The first written name is kept:
it is the root or the start of the path. -/
def dropIdleNames : List Text → List Text
  | [] => []
  | [first] => [first]
  | name :: next :: rest =>
      if name.isEmpty || name == ['.'] then dropIdleNames (next :: rest)
      else name :: next :: rest

/-- The path whose written names are given from the end. -/
def ofNamesFromEnd : List Text → Path
  -- Joining the one empty name would give the empty path, not the root.
  | [[]] => ⟨['/']⟩
  | names => ⟨Text.joined ['/'] names.reverse⟩

/-- The directory that holds the last component. A path without components has
no such directory. -/
def parent? (path : Path) : Option Path :=
  match dropIdleNames path.namesFromEnd with
  | [] => none
  | [[]] => none
  | [_] => some ⟨[]⟩
  | _ :: rest => some (ofNamesFromEnd (dropIdleNames rest))

/-- The last component, if it is the name of a file or a directory. -/
def fileName? (path : Path) : Option Text :=
  match dropIdleNames path.namesFromEnd with
  | [] => none
  | [name] =>
      if name.isEmpty || name == ['.'] || name == ['.', '.'] then none
      else some name
  | name :: _ =>
      if name == ['.', '.'] then none else some name

/-- Cut a file name at its last dot. A name without a dot, or with its only
dot in front, is all stem. -/
def splitFileName (name : Text) : Text × Option Text :=
  let extension := (name.reverse.takeWhile (· ≠ '.')).reverse
  match (name.reverse.dropWhile (· ≠ '.')).reverse.dropLast with
  | [] => (name, none)
  | c :: stem => (c :: stem, some extension)

/-- The file name without its last extension. -/
def fileStem? (path : Path) : Option Text :=
  path.fileName?.map fun name => (splitFileName name).1

/-- The text after the last dot of the file name. -/
def extension? (path : Path) : Option Text :=
  path.fileName?.bind fun name => (splitFileName name).2

/-- A name that stands for an entry of a directory. -/
structure IsName (name : Text) : Prop where
  nonempty : name ≠ []
  noSlash : '/' ∉ name
  notHere : name ≠ ['.']
  notAbove : name ≠ ['.', '.']

instance (name : Text) : Decidable (IsName name) :=
  decidable_of_iff
    (name ≠ [] ∧ '/' ∉ name ∧ name ≠ ['.'] ∧ name ≠ ['.', '.'])
    ⟨fun ⟨nonempty, noSlash, notHere, notAbove⟩ =>
        ⟨nonempty, noSlash, notHere, notAbove⟩,
      fun isName =>
        ⟨isName.nonempty, isName.noSlash, isName.notHere, isName.notAbove⟩⟩

/-- The last part of a name written with either kind of slash. -/
def baseName (name : Text) : Text :=
  let isSlash (c : Char) := c == '/' || c == '\\'
  ((name.dropEndWhile isSlash).reverse.takeWhile (!isSlash ·)).reverse

end Path

end Marginalia
