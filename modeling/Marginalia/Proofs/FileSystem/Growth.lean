import Marginalia.Proofs.FileSystem.Entry
import Marginalia.Proofs.Outcome

/-!
# Growth of a file system

Nothing that a run does removes a file or a directory, or turns one into the
other: directories are added, and files are added or written anew.  So a path
that names a place goes on to name it, and a file that is not written keeps its
contents.
-/

namespace Marginalia

namespace FileSystem

/-- `Grows changed before after` says that all directories and files of `before`
are directories and files of `after`, and that the files which are not at a
`changed` location are the same. -/
structure Grows (changed : List Location) (before after : FileSystem) :
    Prop where
  workingDirectory : after.workingDirectory = before.workingDirectory
  directory : ∀ location, before.entry? location = some .directory →
    after.entry? location = some .directory
  file : ∀ location contents, before.entry? location = some (.file contents) →
    ∃ later, after.entry? location = some (.file later)
  unchanged : ∀ location, location ∉ changed → ∀ contents,
    after.entry? location = some (.file contents) ↔
      before.entry? location = some (.file contents)

namespace Grows

variable {changed later : List Location} {before middle after : FileSystem}

theorem refl (files : FileSystem) : Grows [] files files :=
  ⟨rfl, fun _ => id, fun _ contents standing => ⟨contents, standing⟩,
    fun _ _ _ => Iff.rfl⟩

theorem trans (first : Grows changed before middle)
    (second : Grows later middle after) :
    Grows (changed ++ later) before after where
  workingDirectory := second.workingDirectory.trans first.workingDirectory
  directory location standing :=
    second.directory location (first.directory location standing)
  file location contents standing := by
    obtain ⟨next, nextStanding⟩ := first.file location contents standing
    exact second.file location next nextStanding
  unchanged location outside contents := by
    rw [List.mem_append, not_or] at outside
    exact (second.unchanged location outside.2 contents).trans
      (first.unchanged location outside.1 contents)

theorem put_file (files : FileSystem) (location : Location)
    (contents : Contents) :
    Grows [location] files (files.put location (.file contents)) where
  workingDirectory := workingDirectory_put files location _
  directory _ standing := (isDirectory_put_file_iff contents).mpr standing
  file other old standing := by
    by_cases same : other = location
    · by_cases admits : files.entries.Admits location
      · exact ⟨contents, by rw [same, entry?_put_self admits]⟩
      · exact ⟨old, by rw [put_of_not_admits admits, standing]⟩
    · exact ⟨old, by rw [entry?_put_of_ne same, standing]⟩
  unchanged other outside old := by
    rw [entry?_put_of_ne (List.ne_of_not_mem_cons outside)]

theorem put_directory {files : FileSystem} {location : Location}
    (free : files.entry? location = none) :
    Grows [] files (files.put location .directory) := by
  by_cases admits : files.entries.Admits location
  · have different {other : Location} {entry : Entry}
        (standing : files.entry? other = some entry) : other ≠ location := by
      rintro rfl
      rw [free] at standing
      cases standing
    refine ⟨workingDirectory_put files location _, ?_, ?_, ?_⟩
    · intro other standing
      rw [entry?_put_of_ne (different standing), standing]
    · intro other old standing
      exact ⟨old, by rw [entry?_put_of_ne (different standing), standing]⟩
    · intro other _ old
      by_cases same : other = location
      · rw [same, entry?_put_self admits, free]
        simp
      · rw [entry?_put_of_ne same]
  · rw [put_of_not_admits admits]
    exact refl files

end Grows

/-! ## Following a path -/

section Paths

variable {files before after : FileSystem} {changed : List Location}
  {directory location : Location} {path : Path}

/-- Where a name leads from a directory. -/
def stepTo (directory : Location) (name : Text) : Location :=
  if name.isEmpty || name = ['.'] then directory
  else if name = ['.', '.'] then directory.dropLast
  else directory ++ [name]

theorem enter_eq_ok_iff {name : Text} :
    files.enter directory name = .ok location ↔
      files.entry? directory = some .directory ∧
        stepTo directory name = location := by
  rw [enter, stepTo]
  split
  · next missing => simp [missing]
  · next standing => simp [standing]
  · next standing =>
      rw [standing]
      split
      · simp
      · split <;> simp

theorem enter_isName (isName : Path.IsName name) {directory : Location} :
    files.enter directory name = .ok location ↔
      files.entry? directory = some .directory ∧
        location = directory ++ [name] := by
  have notIdle : ¬(name.isEmpty || name = ['.']) = true := by
    simp [isName.nonempty, isName.notHere]
  rw [enter_eq_ok_iff, stepTo, if_neg notIdle, if_neg isName.notAbove,
    @eq_comm _ location]

theorem Grows.enter (grows : Grows changed before after) {name : Text}
    (entered : before.enter directory name = .ok location) :
    after.enter directory name = .ok location := by
  rw [enter_eq_ok_iff] at entered ⊢
  exact ⟨grows.directory directory entered.1, entered.2⟩

theorem Grows.foldlM_enter (grows : Grows changed before after)
    {names : List Text} (entered : names.foldlM before.enter directory =
      .ok location) :
    names.foldlM after.enter directory = .ok location := by
  induction names generalizing directory with
  | nil =>
      exact entered
  | cons name names inductionHypothesis =>
      rw [List.foldlM_cons, bind_eq_ok_iff] at entered ⊢
      obtain ⟨next, enteredNext, enteredRest⟩ := entered
      exact ⟨next, grows.enter enteredNext, inductionHypothesis enteredRest⟩

theorem Grows.start (grows : Grows changed before after) (path : Path) :
    after.start path = before.start path := by
  rw [FileSystem.start, FileSystem.start, grows.workingDirectory]

theorem locate_eq_ok_iff :
    files.locate path = .ok location ↔
      path.text ≠ [] ∧
        (Text.splitAtEach '/' path.text).foldlM files.enter (files.start path) =
          .ok location := by
  rw [locate]
  cases path.text <;> simp

/-- A path goes on to name the place that it names. -/
theorem Grows.locate (grows : Grows changed before after)
    (located : before.locate path = .ok location) :
    after.locate path = .ok location := by
  rw [locate_eq_ok_iff] at located ⊢
  rw [grows.start]
  exact ⟨located.1, grows.foldlM_enter located.2⟩

/-! ## Reading -/

theorem find_eq_ok_iff {entry : Entry} :
    files.find path = .ok entry ↔
      ∃ location, files.locate path = .ok location ∧
        files.entry? location = some entry := by
  rw [find, bind_eq_ok_iff]
  refine exists_congr fun location => and_congr_right fun _ => ?_
  cases files.entry? location with
  | none => simp
  | some other => simp

theorem readText_eq_ok_iff {text : Text} :
    files.readText path = .ok text ↔
      ∃ location, files.locate path = .ok location ∧
        files.entry? location = some (.file (.text text)) := by
  rw [readText, bind_eq_ok_iff]
  constructor
  · rintro ⟨entry, found, read⟩
    split at read
    · cases read
    · cases read
    · cases read
      exact find_eq_ok_iff.mp found
  · intro standing
    exact ⟨_, find_eq_ok_iff.mpr standing, rfl⟩

theorem isDirectory_iff :
    files.isDirectory path = true ↔
      ∃ location, files.locate path = .ok location ∧
        files.entry? location = some .directory := by
  rw [← find_eq_ok_iff, isDirectory]
  cases files.find path with
  | error fault => simp [Except.toOption]
  | ok entry => cases entry <;> simp [Except.toOption, Entry.isDirectory]

/-- A file that is not changed reads as before. -/
theorem Grows.readText (grows : Grows changed before after) {text : Text}
    (read : before.readText path = .ok text)
    (outside : ∀ location ∈ changed, after.locate path ≠ .ok location) :
    after.readText path = .ok text := by
  obtain ⟨location, located, standing⟩ := readText_eq_ok_iff.mp read
  have later : after.locate path = .ok location := grows.locate located
  have kept : location ∉ changed := fun member =>
    outside location member later
  exact readText_eq_ok_iff.mpr
    ⟨location, later, (grows.unchanged location kept _).mpr standing⟩

theorem Grows.isDirectory (grows : Grows changed before after)
    (standing : before.isDirectory path = true) :
    after.isDirectory path = true := by
  obtain ⟨location, located, isDirectory⟩ := isDirectory_iff.mp standing
  exact isDirectory_iff.mpr
    ⟨location, grows.locate located, grows.directory location isDirectory⟩

/-! ## Filling places with files -/

/-- Files were written at changed places only, and nothing else happened. -/
structure Fills (changed : List Location) (before after : FileSystem) : Prop
    extends Grows changed before after where
  noDirectory : ∀ location, after.entry? location = some .directory →
    before.entry? location = some .directory

theorem Fills.refl (changed : List Location) (files : FileSystem) :
    Fills changed files files where
  workingDirectory := rfl
  directory _ := id
  file _ contents standing := ⟨contents, standing⟩
  unchanged _ _ _ := Iff.rfl
  noDirectory _ := id

theorem Fills.put (fills : Fills changed before after)
    (member : location ∈ changed) (contents : Contents) :
    Fills changed before (after.put location (.file contents)) := by
  have grows := fills.toGrows.trans (Grows.put_file after location contents)
  refine ⟨⟨grows.workingDirectory, grows.directory, grows.file, ?_⟩, ?_⟩
  · intro other outside
    apply grows.unchanged
    rw [List.mem_append, List.mem_singleton]
    rintro (inside | rfl)
    · exact outside inside
    · exact outside member
  · intro other standing
    exact fills.noDirectory other ((isDirectory_put_file_iff contents).mp standing)

theorem Fills.directory_iff (fills : Fills changed before after) :
    after.entry? location = some .directory ↔
      before.entry? location = some .directory :=
  ⟨fills.noDirectory location, fills.directory location⟩

/-- A file that is at none of the changed places reads as before. -/
theorem Fills.readText_eq (fills : Fills changed before after)
    {contents : Contents} (located : before.locate path = .ok location)
    (standing : before.entry? location = some (.file contents))
    (outside : location ∉ changed) :
    after.readText path = before.readText path := by
  have kept := (fills.unchanged location outside contents).mpr standing
  rw [readText, readText, find, find, fills.locate located, located, ok_bind,
    ok_bind, kept, standing]

end Paths

end FileSystem

end Marginalia
