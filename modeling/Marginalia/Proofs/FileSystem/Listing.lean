import Marginalia.Proofs.FileSystem.Relative
import Marginalia.Proofs.Text.Run

/-!
# Listings of directories

The children of a directory are the entries one name further down.  The order in
which entries are listed does not matter: what stands at a location is the same,
and so is where a path leads.
-/

namespace Marginalia.FileSystem

variable {files other : FileSystem} {location : Location} {name : Text}
  {entry : Entry}

/-! ## Children -/

/-- An entry as a child of a directory, if it stands in it. -/
def childOf (directory : Location) (placed : Location × Entry) :
    Option (Text × Entry) :=
  match placed.1.getLast? with
  | some name =>
      if placed.1.dropLast = directory then some (name, placed.2) else none
  | none => none

theorem children_eq (files : FileSystem) (location : Location) :
    files.children location = files.entries.filterMap (childOf location) :=
  rfl

@[simp]
theorem childOf_eq_some_iff {placed : Location × Entry} :
    childOf location placed = some (name, entry) ↔
      placed = (location ++ [name], entry) := by
  rcases placed with ⟨place, standing⟩
  rcases List.eq_nil_or_concat' place with rfl | ⟨directory, last, rfl⟩
  · simp [childOf]
  · simp only [childOf, List.getLast?_concat, List.dropLast_concat,
      Option.ite_none_right_eq_some, Option.some.injEq, Prod.mk.injEq]
    simp [and_assoc]

/-- The children of a directory are what stands one name further down. -/
@[simp]
theorem mem_children_iff :
    (name, entry) ∈ files.children location ↔
      files.entry? (location ++ [name]) = some entry := by
  rw [children_eq, List.mem_filterMap, entry?_eq_some_iff (by simp)]
  simp only [childOf_eq_some_iff, exists_eq_right]

theorem isName_of_mem_children
    (member : (name, entry) ∈ files.children location) : Path.IsName name :=
  isName_of_standing (mem_children_iff.mp member) name (by simp)

/-- No two children of a directory share a name. -/
theorem nodup_children (files : FileSystem) (location : Location) :
    ((files.children location).map Prod.fst).Nodup := by
  have distinct := files.isTree.distinct
  rw [List.Nodup, List.pairwise_map] at distinct
  rw [List.Nodup, List.pairwise_map, children_eq, List.pairwise_filterMap]
  refine distinct.imp fun {first second} different => ?_
  rintro ⟨name, entry⟩ childEq ⟨next, nextEntry⟩ nextEq sameName
  rw [childOf_eq_some_iff] at childEq nextEq
  rw [childEq, nextEq] at different
  exact different (congrArg (location ++ [·]) sameName)

/-! ## Other orders -/

/-- The same entries, listed in another order. -/
structure Reorders (files other : FileSystem) : Prop where
  entries : other.entries.Perm files.entries
  workingDirectory : other.workingDirectory = files.workingDirectory

/-- The file system with its entries listed in some order. -/
def reordered (files : FileSystem) (entries : Entries)
    (order : entries.Perm files.entries) : FileSystem where
  entries := entries
  workingDirectory := files.workingDirectory
  isTree := files.isTree.perm order

theorem reorders_reordered (files : FileSystem) {entries : Entries}
    (order : entries.Perm files.entries) :
    files.Reorders (files.reordered entries order) :=
  ⟨order, rfl⟩

namespace Reorders

theorem children_perm (reorders : files.Reorders other) (location : Location) :
    (other.children location).Perm (files.children location) :=
  reorders.entries.filterMap _

theorem entry?_eq (reorders : files.Reorders other) (location : Location) :
    other.entry? location = files.entry? location := by
  by_cases root : location = []
  · rw [root, entry?_root, entry?_root]
  · apply Option.ext
    intro entry
    rw [entry?_eq_some_iff root, entry?_eq_some_iff root,
      reorders.entries.mem_iff]

theorem enter_eq (reorders : files.Reorders other) :
    other.enter = files.enter := by
  funext directory name
  rw [enter, enter, reorders.entry?_eq]

theorem locate_eq (reorders : files.Reorders other) (path : Path) :
    other.locate path = files.locate path := by
  rw [locate, locate, reorders.enter_eq, start, start,
    reorders.workingDirectory]

theorem readText_eq (reorders : files.Reorders other) (path : Path) :
    other.readText path = files.readText path := by
  have sameFind : other.find path = files.find path := by
    rw [find, find, reorders.locate_eq]
    simp only [reorders.entry?_eq]
  rw [readText, readText, sameFind]

end Reorders

end Marginalia.FileSystem
