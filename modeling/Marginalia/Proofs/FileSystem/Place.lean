import Marginalia.Proofs.FileSystem.Relative

/-!
# Places of paths

Where a path leads, if it leads anywhere, is settled by its names alone.  A path
with a name put below it leads below the place of the path.
-/

namespace Marginalia.FileSystem

variable {files after : FileSystem} {path base : Path}
  {location directory : Location} {name : Text} {entry : Entry}

/-- Where the names of a path lead, whatever stands on the way. -/
def placeOf (files : FileSystem) (path : Path) : Location :=
  (Text.splitAtEach '/' path.text).foldl stepTo (files.start path)

theorem foldl_stepTo_of_foldlM_enter {names : List Text}
    (entered : names.foldlM files.enter directory = .ok location) :
    names.foldl stepTo directory = location := by
  induction names generalizing directory with
  | nil =>
      exact Except.ok.inj entered
  | cons name names inductionHypothesis =>
      rw [List.foldlM_cons, bind_eq_ok_iff] at entered
      obtain ⟨next, enteredNext, enteredRest⟩ := entered
      have nextEq : stepTo directory name = next := (enter_eq_ok_iff.mp enteredNext).2
      rw [List.foldl_cons, nextEq]
      exact inductionHypothesis enteredRest

theorem placeOf_of_locate (located : files.locate path = .ok location) :
    files.placeOf path = location :=
  foldl_stepTo_of_foldlM_enter (locate_eq_ok_iff.mp located).2

theorem placeOf_congr (same : after.workingDirectory = files.workingDirectory)
    (path : Path) : after.placeOf path = files.placeOf path := by
  rw [placeOf, placeOf, start, start, same]

theorem foldl_stepTo_empty {names : List Text} (empty : ∀ name ∈ names, name = []) :
    names.foldl stepTo directory = directory := by
  induction names with
  | nil =>
      rfl
  | cons name names inductionHypothesis =>
      have here : stepTo directory name = directory := by
        rw [empty name List.mem_cons_self]
        rfl
      rw [List.foldl_cons, here]
      exact inductionHypothesis fun other member =>
        empty other (List.mem_cons_of_mem name member)

theorem placeOf_join (isName : Path.IsName name) (files : FileSystem)
    (base : Path) : files.placeOf (base.join ⟨name⟩) = files.placeOf base ++ [name] := by
  obtain ⟨empties, namesEq, empty⟩ := base.exists_empties
  have baseEq :
      files.placeOf base = base.namesBelow.foldl stepTo (files.start base) := by
    rw [placeOf, namesEq, List.foldl_append, foldl_stepTo_empty empty]
  have step (place : Location) : stepTo place name = place ++ [name] := by
    simp [stepTo, isName.nonempty, isName.notHere, isName.notAbove]
  rw [placeOf, Path.splitAtEach_join isName.noSlash, List.foldl_append,
    start_join isName.noSlash, start_join_empty, ← baseEq, List.foldl_cons,
    List.foldl_nil, step]

theorem placeOf_prefix_join (isName : Path.IsName name) (files : FileSystem)
    (base : Path) : files.placeOf base <+: files.placeOf (base.join ⟨name⟩) := by
  rw [placeOf_join isName]
  exact List.prefix_append _ _

end Marginalia.FileSystem
