import Marginalia.Proofs.FileSystem.Growth
import Marginalia.Proofs.Text.Piece
import Mathlib.Data.List.TakeWhile

/-!
# Writing files and making directories

A file that is written stands at the place that its path names, and no other
file changes.  Making directories changes no file, whether it succeeds or not;
a directory that is made is there afterwards, and making it once more changes
nothing at all.
-/

namespace Marginalia

/-! ## Written names -/

namespace Text

theorem splitAtEach_ne_nil (separator : Char) (text : Text) :
    splitAtEach separator text ≠ [] := by
  cases text with
  | nil =>
      simp [splitAtEach]
  | cons c rest =>
      rw [splitAtEach]
      split
      · simp
      · split <;> simp

@[simp]
theorem splitAtEach_cons_separator (separator : Char) (rest : Text) :
    splitAtEach separator (separator :: rest) =
      [] :: splitAtEach separator rest := by
  obtain ⟨piece, pieces, restEq⟩ :=
    List.exists_cons_of_ne_nil (splitAtEach_ne_nil separator rest)
  rw [splitAtEach, restEq]
  simp

theorem splitAtEach_cons_of_ne {separator c : Char} (different : c ≠ separator)
    {rest piece : Text} {pieces : List Text}
    (restEq : splitAtEach separator rest = piece :: pieces) :
    splitAtEach separator (c :: rest) = (c :: piece) :: pieces := by
  rw [splitAtEach, restEq]
  simp [different]

@[simp]
theorem splitAtEach_append_cons (separator : Char) (left right : Text) :
    splitAtEach separator (left ++ separator :: right) =
      splitAtEach separator left ++ splitAtEach separator right := by
  induction left with
  | nil =>
      rw [List.nil_append, splitAtEach_cons_separator]
      rfl
  | cons c left inductionHypothesis =>
      obtain ⟨piece, pieces, leftEq⟩ :=
        List.exists_cons_of_ne_nil (splitAtEach_ne_nil separator left)
      have restEq :
          splitAtEach separator (left ++ separator :: right) =
            piece :: (pieces ++ splitAtEach separator right) := by
        rw [inductionHypothesis, leftEq, List.cons_append]
      by_cases same : c = separator
      · rw [same, List.cons_append, splitAtEach_cons_separator,
          splitAtEach_cons_separator, restEq, leftEq]
        rfl
      · rw [List.cons_append, splitAtEach_cons_of_ne same restEq,
          splitAtEach_cons_of_ne same leftEq, List.cons_append]

theorem splitAtEach_eq_singleton {separator : Char} {text : Text}
    (absent : separator ∉ text) : splitAtEach separator text = [text] := by
  induction text with
  | nil =>
      rfl
  | cons c rest inductionHypothesis =>
      rw [List.mem_cons, not_or] at absent
      exact splitAtEach_cons_of_ne (Ne.symm absent.1)
        (inductionHypothesis absent.2)

theorem not_mem_of_mem_splitAtEach {separator : Char} {text piece : Text}
    (member : piece ∈ splitAtEach separator text) : separator ∉ piece := by
  induction text generalizing piece with
  | nil =>
      rw [splitAtEach, List.mem_singleton] at member
      simp [member]
  | cons c rest inductionHypothesis =>
      obtain ⟨first, pieces, restEq⟩ :=
        List.exists_cons_of_ne_nil (splitAtEach_ne_nil separator rest)
      rw [restEq] at inductionHypothesis
      by_cases same : c = separator
      · rw [same, splitAtEach_cons_separator, restEq, List.mem_cons] at member
        rcases member with rfl | inRest
        · simp
        · exact inductionHypothesis inRest
      · rw [splitAtEach_cons_of_ne same restEq, List.mem_cons] at member
        rcases member with rfl | inRest
        · have clean := inductionHypothesis List.mem_cons_self
          simp [clean, Ne.symm same]
        · exact inductionHypothesis (List.mem_cons_of_mem first inRest)

end Text

namespace FileSystem

variable {files after : FileSystem} {path : Path} {location : Location}

/-! ## Targets -/

theorem foldlM_enter_append {names others : List Text}
    {directory : Location} :
    (names ++ others).foldlM files.enter directory = .ok location ↔
      ∃ middle, names.foldlM files.enter directory = .ok middle ∧
        others.foldlM files.enter middle = .ok location := by
  rw [List.foldlM_append, bind_eq_ok_iff]

theorem foldlM_enter_empty {names : List Text} (empty : ∀ name ∈ names, name = [])
    (isDirectory : files.entry? location = some .directory) :
    names.foldlM files.enter location = .ok location := by
  induction names with
  | nil =>
      rfl
  | cons name names inductionHypothesis =>
      have entered : files.enter location name = .ok location := by
        rw [enter_eq_ok_iff, empty name List.mem_cons_self]
        exact ⟨isDirectory, rfl⟩
      rw [List.foldlM_cons, bind_eq_ok_iff]
      exact ⟨location, entered, inductionHypothesis fun other member =>
        empty other (List.mem_cons_of_mem name member)⟩

theorem eq_of_foldlM_enter_empty {names : List Text} {directory : Location}
    (empty : ∀ name ∈ names, name = [])
    (entered : names.foldlM files.enter directory = .ok location) :
    directory = location := by
  induction names with
  | nil =>
      exact Except.ok.inj entered
  | cons name names inductionHypothesis =>
      rw [List.foldlM_cons, bind_eq_ok_iff] at entered
      obtain ⟨next, enteredNext, enteredRest⟩ := entered
      rw [enter_eq_ok_iff, empty name List.mem_cons_self] at enteredNext
      rw [← enteredNext.2] at enteredRest
      exact inductionHypothesis
        (fun other member => empty other (List.mem_cons_of_mem name member))
        enteredRest

theorem empty_of_mem_takeWhile {names : List Text} :
    ∀ name ∈ names.takeWhile List.isEmpty, name = [] := by
  intro name member
  exact List.isEmpty_iff.mp (List.mem_takeWhile_imp member)

/-- The names of a path are those up to its last name, and the empty ones after
slashes at its end. -/
theorem splitAtEach_eq_of_dropWhile {last : Text} {before : List Text}
    (named : (Text.splitAtEach '/' path.text).reverse.dropWhile List.isEmpty =
      last :: before) :
    Text.splitAtEach '/' path.text =
      (before.reverse ++ [last]) ++
        ((Text.splitAtEach '/' path.text).reverse.takeWhile
          List.isEmpty).reverse := by
  have parts :=
    List.takeWhile_append_dropWhile (p := List.isEmpty)
      (l := (Text.splitAtEach '/' path.text).reverse)
  rw [named] at parts
  have reversed := congrArg List.reverse parts
  rw [List.reverse_reverse, List.reverse_append, List.reverse_cons] at reversed
  exact reversed.symm

/-- A target is the place of the names up to the last one. -/
theorem exists_names_of_target {target : Target}
    (targeted : files.target path = .ok target) :
    path.text ≠ [] ∧
      (target.isGiven = false → ∃ names empties,
        Text.splitAtEach '/' path.text = names ++ empties ∧
        (∀ name ∈ empties, name = []) ∧
        names.foldlM files.enter (files.start path) = .ok target.location ∧
        (target.endsInSlash = false → empties = [])) := by
  rw [FileSystem.target] at targeted
  cases named :
      (Text.splitAtEach '/' path.text).reverse.dropWhile List.isEmpty with
  | nil =>
      simp only [named] at targeted
      split at targeted
      · cases targeted
      · next nonempty =>
          cases targeted
          refine ⟨by simpa using nonempty, ?_⟩
          intro notGiven
          cases notGiven
  | cons last before =>
      simp only [named, bind_eq_ok_iff] at targeted
      obtain ⟨directory, entered, final, enteredFinal, targetEq⟩ := targeted
      cases targetEq
      constructor
      · intro empty
        rw [empty] at named
        cases named
      · intro _
        refine ⟨before.reverse ++ [last], _, splitAtEach_eq_of_dropWhile named,
          fun name member => empty_of_mem_takeWhile name
            (List.mem_reverse.mp member), ?_, ?_⟩
        · rw [foldlM_enter_append]
          exact ⟨directory, entered, by
            rw [List.foldlM_cons, bind_eq_ok_iff]
            exact ⟨final, enteredFinal, rfl⟩⟩
        · intro noSlash
          cases writtenEq : (Text.splitAtEach '/' path.text).reverse with
          | nil =>
              rfl
          | cons first rest =>
              simp only [writtenEq, List.head?_cons, Option.any_some] at noSlash
              rw [List.takeWhile_cons_of_neg (by simp [noSlash])]
              rfl

theorem locate_of_target {target : Target}
    (targeted : files.target path = .ok target)
    (notGiven : target.isGiven = false) (noSlash : target.endsInSlash = false) :
    files.locate path = .ok target.location := by
  obtain ⟨nonempty, place⟩ := exists_names_of_target targeted
  obtain ⟨names, empties, namesEq, _, entered, noEmpties⟩ := place notGiven
  rw [locate_eq_ok_iff, namesEq, noEmpties noSlash, List.append_nil]
  exact ⟨nonempty, entered⟩

theorem locate_of_target_directory {target : Target} {changed : List Location}
    (targeted : files.target path = .ok target)
    (notGiven : target.isGiven = false) (grows : Grows changed files after)
    (isDirectory : after.entry? target.location = some .directory) :
    after.locate path = .ok target.location := by
  obtain ⟨nonempty, place⟩ := exists_names_of_target targeted
  obtain ⟨names, empties, namesEq, empty, entered, _⟩ := place notGiven
  rw [locate_eq_ok_iff, namesEq, foldlM_enter_append, grows.start]
  exact ⟨nonempty, target.location, grows.foldlM_enter entered,
    foldlM_enter_empty empty isDirectory⟩

/-- A path that names a directory is a target that is taken. -/
theorem exists_target_of_locate (located : files.locate path = .ok location) :
    ∃ target, files.target path = .ok target ∧
      (target.isGiven = true ∨ target.location = location) := by
  obtain ⟨nonempty, entered⟩ := locate_eq_ok_iff.mp located
  cases named :
      (Text.splitAtEach '/' path.text).reverse.dropWhile List.isEmpty with
  | nil =>
      refine ⟨⟨[], true, true⟩, ?_, Or.inl rfl⟩
      simp only [FileSystem.target, named]
      rw [if_neg (by simpa using nonempty)]
  | cons last before =>
      rw [splitAtEach_eq_of_dropWhile named, foldlM_enter_append] at entered
      obtain ⟨final, enteredNames, enteredEmpties⟩ := entered
      have same : final = location :=
        eq_of_foldlM_enter_empty
          (fun name member => empty_of_mem_takeWhile name
            (List.mem_reverse.mp member)) enteredEmpties
      obtain ⟨directory, enteredDirectory, enteredLast⟩ :=
        foldlM_enter_append.mp enteredNames
      rw [List.foldlM_cons, bind_eq_ok_iff] at enteredLast
      obtain ⟨next, enteredNext, nextEq⟩ := enteredLast
      cases nextEq
      refine ⟨⟨final, (Text.splitAtEach '/' path.text).reverse.head?.any
        List.isEmpty, last = ['.'] || last = ['.', '.']⟩, ?_, Or.inr same⟩
      simp only [FileSystem.target, named, bind_eq_ok_iff]
      exact ⟨directory, enteredDirectory, final, enteredNext, rfl⟩

theorem Grows.target {before : FileSystem} {changed : List Location}
    {target : Target} (grows : Grows changed before after)
    (targeted : before.target path = .ok target) :
    after.target path = .ok target := by
  rw [FileSystem.target] at targeted ⊢
  split at targeted
  · exact targeted
  · simp only [bind_eq_ok_iff] at targeted ⊢
    obtain ⟨directory, entered, location, enteredLast, targetEq⟩ := targeted
    rw [grows.start]
    exact ⟨directory, grows.foldlM_enter entered, location,
      grows.enter enteredLast, targetEq⟩

/-! ## Free places -/

/-- A place where an entry may be made is a plain name in a directory. -/
theorem exists_directory_of_target {target : Target}
    (targeted : files.target path = .ok target)
    (notGiven : target.isGiven = false) :
    ∃ directory name, Path.IsName name ∧
      files.entry? directory = some .directory ∧
      target.location = directory ++ [name] := by
  rw [FileSystem.target] at targeted
  cases named :
      (Text.splitAtEach '/' path.text).reverse.dropWhile List.isEmpty with
  | nil =>
      simp only [named] at targeted
      split at targeted
      · cases targeted
      · cases targeted
        cases notGiven
  | cons last before =>
      simp only [named, bind_eq_ok_iff] at targeted
      obtain ⟨directory, _, final, enteredFinal, targetEq⟩ := targeted
      cases targetEq
      have written : last ∈ Text.splitAtEach '/' path.text := by
        rw [splitAtEach_eq_of_dropWhile named]
        simp
      have nonempty : last ≠ [] := by
        have kept := List.head?_dropWhile_not List.isEmpty
          (Text.splitAtEach '/' path.text).reverse
        rw [named] at kept
        simpa using kept
      have isName : Path.IsName last := by
        simp only [Bool.or_eq_false_iff, decide_eq_false_iff_not] at notGiven
        exact ⟨nonempty, Text.not_mem_of_mem_splitAtEach written, notGiven.1,
          notGiven.2⟩
      obtain ⟨isDirectory, finalEq⟩ := (enter_isName isName).mp enteredFinal
      exact ⟨directory, last, isName, isDirectory, finalEq⟩

theorem admits_of_target {target : Target}
    (targeted : files.target path = .ok target)
    (notGiven : target.isGiven = false)
    (noDirectory : files.entry? target.location ≠ some .directory) :
    files.entries.Admits target.location := by
  obtain ⟨directory, name, isName, isDirectory, placeEq⟩ :=
    exists_directory_of_target targeted notGiven
  refine admits_iff.mpr ⟨?_, ?_, noDirectory⟩
  · intro other member
    rw [placeEq, List.mem_append, List.mem_singleton] at member
    rcases member with above | rfl
    · exact isName_of_standing isDirectory other above
    · exact isName
  · rw [placeEq, List.dropLast_concat]
    exact isDirectory

/-! ## Writing a file -/

/-- The path leads to a place for a file, in a directory that is there. -/
structure Leads (files : FileSystem) (path : Path) (location : Location) :
    Prop where
  target : files.target path = .ok ⟨location, false, false⟩
  parent : ∀ parent, path.parent? = some parent →
    parent.text = [] ∨ files.isDirectory parent = true

theorem Leads.grow {before : FileSystem} {changed : List Location}
    (leads : before.Leads path location) (grows : Grows changed before after) :
    after.Leads path location where
  target := grows.target leads.target
  parent parent parentEq :=
    (leads.parent parent parentEq).imp_right grows.isDirectory

theorem Leads.locate (leads : files.Leads path location) :
    files.locate path = .ok location :=
  locate_of_target leads.target rfl rfl

theorem Leads.admits (leads : files.Leads path location)
    (noDirectory : files.entry? location ≠ some .directory) :
    files.entries.Admits location :=
  admits_of_target leads.target rfl noDirectory

theorem Leads.write (leads : files.Leads path location) (contents : Contents) :
    files.write path contents =
      if files.entry? location = some .directory then .error .isDirectory
      else .ok (files.put location (.file contents)) := by
  rw [FileSystem.write, leads.target]
  cases standing : files.entry? location with
  | none => simp [standing]
  | some entry => cases entry <;> simp [standing]

theorem write_eq_ok_iff {contents : Contents} :
    files.write path contents = .ok after ↔
      ∃ location, files.target path = .ok ⟨location, false, false⟩ ∧
        files.entry? location ≠ some .directory ∧
        after = files.put location (.file contents) := by
  rw [write, bind_eq_ok_iff]
  constructor
  · rintro ⟨⟨location, endsInSlash, isGiven⟩, targeted, wrote⟩
    cases endsInSlash with
    | true => simp at wrote
    | false =>
        cases isGiven with
        | true => simp at wrote
        | false =>
            refine ⟨location, targeted, ?_⟩
            split at wrote
            · simp at wrote
            · next free => exact ⟨free, by simpa [eq_comm] using wrote⟩
  · rintro ⟨location, targeted, notDirectory, rfl⟩
    refine ⟨⟨location, false, false⟩, targeted, ?_⟩
    split
    · next standing => exact absurd standing notDirectory
    · simp

/-- A file that is written stands where its path leads. -/
theorem exists_leads_of_write {contents : Contents}
    (parents : ∀ parent, path.parent? = some parent →
      parent.text = [] ∨ files.isDirectory parent = true)
    (wrote : files.write path contents = .ok after) :
    ∃ location, after.Leads path location ∧
      after.entry? location = some (.file contents) ∧
      Grows [location] files after := by
  obtain ⟨location, targeted, notDirectory, rfl⟩ := write_eq_ok_iff.mp wrote
  have grows := Grows.put_file files location contents
  have admits := admits_of_target targeted rfl notDirectory
  exact ⟨location, Leads.grow ⟨targeted, parents⟩ grows,
    entry?_put_self admits _, grows⟩

/-! ## Making directories -/

theorem makeDirectory_eq_ok_iff :
    files.makeDirectory path = .ok after ↔
      ∃ target, files.target path = .ok target ∧ target.isGiven = false ∧
        files.entry? target.location = none ∧
        after = files.put target.location .directory := by
  rw [makeDirectory, bind_eq_ok_iff]
  refine exists_congr fun target => and_congr_right fun _ => ?_
  cases target.isGiven with
  | true => simp
  | false =>
      cases files.entry? target.location with
      | some entry => simp
      | none => simp [eq_comm]

theorem Grows.of_makeDirectory (made : files.makeDirectory path = .ok after) :
    Grows [] files after := by
  obtain ⟨target, _, _, free, rfl⟩ := makeDirectory_eq_ok_iff.mp made
  exact Grows.put_directory free

theorem isDirectory_of_makeDirectory
    (made : files.makeDirectory path = .ok after) :
    after.isDirectory path = true := by
  have grows := Grows.of_makeDirectory made
  obtain ⟨target, targeted, notGiven, free, rfl⟩ :=
    makeDirectory_eq_ok_iff.mp made
  have notDirectory : files.entry? target.location ≠ some .directory := by
    simp [free]
  have standing :=
    entry?_put_self (admits_of_target targeted notGiven notDirectory) .directory
  exact isDirectory_iff.mpr ⟨target.location,
    locate_of_target_directory targeted notGiven grows standing, standing⟩

theorem makeDirectory_of_isDirectory (standing : files.isDirectory path = true) :
    files.makeDirectory path = .error .alreadyExists := by
  obtain ⟨location, located, isDirectory⟩ := isDirectory_iff.mp standing
  obtain ⟨target, targeted, taken⟩ := exists_target_of_locate located
  rw [makeDirectory, targeted]
  rcases taken with given | same
  · simp [given]
  · cases given : target.isGiven <;> simp [given, same, isDirectory]

theorem isDirectory_of_ensureDirectory
    (made : files.ensureDirectory path = .ok after) :
    after.isDirectory path = true := by
  rw [ensureDirectory] at made
  split at made
  · next changedEq =>
      cases made
      exact isDirectory_of_makeDirectory changedEq
  · split at made
    · next standing =>
        cases made
        exact standing
    · cases made

/-- What the making of one directory keeps is kept, even if it fails halfway. -/
theorem makeDirectoriesFrom_keeps {property : FileSystem → Prop}
    (step : ∀ {files after : FileSystem} {path : Path}, property files →
      files.makeDirectory path = .ok after → property after)
    (depth : Nat) (path : Path) (given : property files) :
    property (makeDirectoriesFrom depth files path).2 := by
  have ensured {files made : FileSystem} {path : Path} (given : property files)
      (ensuredEq : files.ensureDirectory path = .ok made) : property made := by
    rw [ensureDirectory] at ensuredEq
    split at ensuredEq
    · next madeEq =>
        cases ensuredEq
        exact step given madeEq
    · split at ensuredEq
      · cases ensuredEq
        exact given
      · cases ensuredEq
  induction depth generalizing files path with
  | zero =>
      exact given
  | succ depth inductionHypothesis =>
      rw [FileSystem.makeDirectoriesFrom]
      split
      · exact given
      · split
        · next parent _ _ =>
            have before := inductionHypothesis parent given
            split
            · next failed => rwa [failed] at before
            · next made =>
                rw [made] at before
                dsimp only
                split
                · next ensuredEq => exact ensured before ensuredEq
                · exact before
        · exact given
        · dsimp only
          split
          · next ensuredEq => exact ensured given ensuredEq
          · exact given

/-- Making directories changes no file. -/
theorem Grows.makeDirectories (files : FileSystem) (path : Path) :
    Grows [] files (files.makeDirectories path).2 :=
  makeDirectoriesFrom_keeps
    (fun grows made => grows.trans (Grows.of_makeDirectory made)) _ path
    (Grows.refl files)

theorem isDirectory_of_makeDirectories
    (made : files.makeDirectories path = (.ok (), after)) :
    path.text = [] ∨ after.isDirectory path = true := by
  rw [FileSystem.makeDirectories, FileSystem.makeDirectoriesFrom] at made
  split at made
  · next empty => exact Or.inl (by simpa using empty)
  · right
    split at made
    · split at made
      · cases made
      · dsimp only at made
        split at made
        · next ensured =>
            cases made
            exact isDirectory_of_ensureDirectory ensured
        · cases made
    · cases made
    · dsimp only at made
      split at made
      · next ensured =>
          cases made
          exact isDirectory_of_ensureDirectory ensured
      · cases made

/-- Making a directory that is there changes nothing. -/
theorem makeDirectories_of_isDirectory
    (standing : path.text = [] ∨ files.isDirectory path = true) :
    files.makeDirectories path = (.ok (), files) := by
  rw [FileSystem.makeDirectories, FileSystem.makeDirectoriesFrom]
  split
  · rfl
  · next nonempty =>
      have isDirectory : files.isDirectory path = true :=
        standing.resolve_left (by simpa using nonempty)
      simp [makeDirectory_of_isDirectory isDirectory, ensureDirectory,
        isDirectory]

end FileSystem

end Marginalia
