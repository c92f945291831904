import Marginalia.Proofs.FileSystem.Name

/-!
# Relative paths

A relative path below a directory is followed from that directory on.  The
directory of a file is the parent of its path, so a relative path beside the file
is followed from the same place.
-/

namespace Marginalia

theorem Text.splitAtEach_joined {separator : Char} {pieces : List Text}
    (nonempty : pieces ≠ []) (separate : ∀ piece ∈ pieces, separator ∉ piece) :
    splitAtEach separator (joined [separator] pieces) = pieces := by
  induction pieces with
  | nil =>
      exact absurd rfl nonempty
  | cons piece pieces inductionHypothesis =>
      have here : separator ∉ piece := separate piece List.mem_cons_self
      cases pieces with
      | nil =>
          rw [joined, List.intercalate_singleton]
          exact splitAtEach_eq_singleton here
      | cons next rest =>
          have later :=
            inductionHypothesis (List.cons_ne_nil next rest) fun other member =>
              separate other (List.mem_cons_of_mem piece member)
          rw [joined, List.intercalate_cons_cons, List.append_assoc,
            List.singleton_append, splitAtEach_append_cons,
            splitAtEach_eq_singleton here]
          exact congrArg (piece :: ·) later

namespace Path

variable {base : Path} {relative : Text}

/-! ## Names below a path -/

theorem join_of_relative (isRelative : isAbsolute ⟨relative⟩ = false)
    (base : Path) :
    base.join ⟨relative⟩ = ⟨(base.join ⟨[]⟩).text ++ relative⟩ := by
  have empty : isAbsolute ⟨[]⟩ = false := rfl
  rw [join, join, isRelative, empty]
  simp only [Bool.false_eq_true, if_false, List.append_nil]
  split <;> rfl

theorem splitAtEach_join_empty (base : Path)
    (nonempty : (base.join ⟨[]⟩).text ≠ []) :
    Text.splitAtEach '/' (base.join ⟨[]⟩).text = base.namesBelow ++ [[]] := by
  obtain ⟨front, frontEq⟩ := base.join_empty_cases.resolve_left nonempty
  rw [namesBelow, frontEq, Text.splitAtEach_append_cons]
  exact congrArg (· ++ [[]]) List.dropLast_concat.symm

theorem splitAtEach_join_relative (isRelative : isAbsolute ⟨relative⟩ = false)
    (base : Path) :
    Text.splitAtEach '/' (base.join ⟨relative⟩).text =
      base.namesBelow ++ Text.splitAtEach '/' relative := by
  rw [join_of_relative isRelative]
  rcases base.join_empty_cases with empty | ⟨front, frontEq⟩
  · rw [namesBelow, empty]
    rfl
  · rw [namesBelow, frontEq, List.append_assoc, List.singleton_append,
      Text.splitAtEach_append_cons, Text.splitAtEach_append_cons]
    exact congrArg (· ++ _) List.dropLast_concat.symm

theorem noSlash_of_mem_namesBelow {name : Text}
    (member : name ∈ base.namesBelow) : '/' ∉ name :=
  Text.not_mem_of_mem_splitAtEach (List.mem_of_mem_dropLast member)

theorem join_empty_eq (base : Path) :
    base.join ⟨[]⟩ =
      if base.text = [] ∨ base.text.getLast? = some '/' then base
      else ⟨base.text ++ ['/']⟩ := by
  have relative : isAbsolute ⟨[]⟩ = false := rfl
  rw [join, relative]
  simp

@[simp]
theorem isAbsolute_join_empty (base : Path) :
    (base.join ⟨[]⟩).isAbsolute = base.isAbsolute := by
  rw [join_empty_eq]
  split
  · rfl
  · next written =>
      rw [not_or] at written
      rw [Bool.eq_iff_iff, isAbsolute_iff, isAbsolute_iff,
        List.head?_append_of_ne_nil _ written.1]

/-- The names of a path are those on the way to what is put below it, and at most
an empty one after a slash at its end. -/
theorem exists_empties (base : Path) :
    ∃ empties, Text.splitAtEach '/' base.text = base.namesBelow ++ empties ∧
      ∀ name ∈ empties, name = [] := by
  by_cases empty : base.text = []
  · refine ⟨[[]], ?_, by simp⟩
    rw [namesBelow, join_empty_eq, if_pos (Or.inl empty), empty]
    rfl
  by_cases slash : base.text.getLast? = some '/'
  · have joinEq : base.join ⟨[]⟩ = base := by
      rw [join_empty_eq, if_pos (Or.inr slash)]
    refine ⟨[[]], ?_, by simp⟩
    rw [← splitAtEach_join_empty base (by rwa [joinEq]), joinEq]
  · refine ⟨[], ?_, by simp⟩
    rw [namesBelow, join_empty_eq, if_neg (by simp [empty, slash]),
      Text.splitAtEach_append_cons, List.append_nil]
    exact List.dropLast_concat.symm

/-- What is put below a path starts at the root if the first name is empty. -/
theorem isAbsolute_join_empty_iff :
    (base.join ⟨[]⟩).isAbsolute = true ↔ base.namesBelow.head? = some [] := by
  rw [isAbsolute_iff]
  rcases base.join_empty_cases with empty | ⟨front, frontEq⟩
  · rw [namesBelow, empty]
    simp [Text.splitAtEach]
  · rw [namesBelow, frontEq, Text.splitAtEach_append_cons]
    show _ ↔ (Text.splitAtEach '/' front ++ [[]]).dropLast.head? = some []
    rw [List.dropLast_concat]
    cases front with
    | nil => simp [Text.splitAtEach]
    | cons c rest =>
        obtain ⟨piece, pieces, restEq⟩ :=
          List.exists_cons_of_ne_nil (Text.splitAtEach_ne_nil '/' rest)
        by_cases slash : c = '/'
        · rw [slash, Text.splitAtEach_cons_separator]
          simp
        · rw [Text.splitAtEach_cons_of_ne slash restEq]
          simp [slash]

theorem isAbsolute_join_relative (isRelative : isAbsolute ⟨relative⟩ = false)
    (base : Path) :
    (base.join ⟨relative⟩).isAbsolute = (base.join ⟨[]⟩).isAbsolute := by
  rw [Bool.eq_iff_iff, isAbsolute_iff, isAbsolute_iff,
    join_of_relative isRelative]
  rw [← Bool.not_eq_true, isAbsolute_iff] at isRelative
  rcases base.join_empty_cases with empty | ⟨front, frontEq⟩
  · rw [empty]
    simpa using isRelative
  · rw [frontEq]
    cases front <;> simp

theorem isAbsolute_name_append {name : Text} (isName : IsName name) (rest : Text) :
    isAbsolute ⟨name ++ rest⟩ = false := by
  rw [← Bool.not_eq_true, isAbsolute_iff,
    List.head?_append_of_ne_nil _ isName.nonempty]
  exact fun slash => isName.noSlash (List.mem_of_head? slash)

/-- A name and a relative path below it are one relative path. -/
theorem join_join_relative {name : Text} (isName : IsName name)
    (isRelative : isAbsolute ⟨relative⟩ = false) (base : Path) :
    (base.join ⟨name⟩).join ⟨relative⟩ = base.join ⟨name ++ '/' :: relative⟩ := by
  rw [join_of_relative isRelative,
    join_of_relative (isAbsolute_name_append isName _), join_join_empty isName,
    join_of_noSlash isName.noSlash, List.append_assoc, List.append_assoc,
    List.singleton_append]

/-! ## The directory of a file -/

/-- A relative path beside a file: it is put below the directory of the file. -/
def beside (path : Path) (relative : Text) : Path :=
  (path.parent?.getD ⟨[]⟩).join ⟨relative⟩

/-- The names that are dropped mean nothing. -/
theorem exists_idle_append (names : List Text) :
    ∃ idle, names = idle ++ dropIdleNames names ∧
      ∀ name ∈ idle, name = [] ∨ name = ['.'] := by
  fun_induction dropIdleNames names with
  | case1 => exact ⟨[], rfl, by simp⟩
  | case2 first => exact ⟨[], rfl, by simp⟩
  | case3 name next rest isIdle inductionHypothesis =>
      obtain ⟨idle, idleEq, meansNothing⟩ := inductionHypothesis
      refine ⟨name :: idle, by rw [List.cons_append, ← idleEq], ?_⟩
      intro other member
      rcases List.mem_cons.mp member with rfl | later
      · simpa using isIdle
      · exact meansNothing other later
  | case4 name next rest _ => exact ⟨[], rfl, by simp⟩

theorem dropIdleNames_cases {names : List Text} (nonempty : names ≠ []) :
    (∃ first, dropIdleNames names = [first]) ∨
      ∃ name next rest, dropIdleNames names = name :: next :: rest ∧ name ≠ [] := by
  fun_induction dropIdleNames names with
  | case1 => exact absurd rfl nonempty
  | case2 first => exact Or.inl ⟨first, rfl⟩
  | case3 name next rest _ inductionHypothesis =>
      exact inductionHypothesis (List.cons_ne_nil next rest)
  | case4 name next rest notIdle =>
      right
      refine ⟨name, next, rest, rfl, ?_⟩
      rintro rfl
      simp at notIdle

theorem exists_joined_concat (names : List Text) (last : Text) :
    ∃ front, Text.joined ['/'] (names ++ [last]) = front ++ last := by
  induction names with
  | nil =>
      exact ⟨[], by simp [Text.joined]⟩
  | cons name names inductionHypothesis =>
      obtain ⟨front, frontEq⟩ := inductionHypothesis
      obtain ⟨next, rest, restEq⟩ :=
        List.exists_cons_of_ne_nil (List.append_ne_nil_of_right_ne_nil names
          (List.cons_ne_nil last []))
      rw [restEq] at frontEq
      refine ⟨name ++ ['/'] ++ front, ?_⟩
      rw [List.cons_append, restEq, Text.joined, List.intercalate_cons_cons]
      rw [Text.joined] at frontEq
      rw [frontEq, List.append_assoc, List.append_assoc, List.append_assoc]

theorem namesBelow_of_joined {names : List Text} {last : Text}
    (separate : ∀ name ∈ names ++ [last], '/' ∉ name) (nonempty : last ≠ []) :
    namesBelow ⟨Text.joined ['/'] (names ++ [last])⟩ = names ++ [last] := by
  obtain ⟨front, frontEq⟩ := exists_joined_concat names last
  have noSlash : '/' ∉ last := separate last (by simp)
  have lastNoSlash : last.getLast? ≠ some '/' := fun slash =>
    noSlash (List.mem_of_getLast? slash)
  have joinEq :
      (join ⟨Text.joined ['/'] (names ++ [last])⟩ ⟨[]⟩).text =
        Text.joined ['/'] (names ++ [last]) ++ ['/'] := by
    rw [join, frontEq]
    simp [isAbsolute, Text.startsWith, Text.after?, nonempty,
      List.getLast?_append, lastNoSlash]
  have namesEq : Text.splitAtEach '/' (Text.joined ['/'] (names ++ [last])) =
      names ++ [last] :=
    Text.splitAtEach_joined (by simp) separate
  rw [namesBelow, joinEq, Text.splitAtEach_append_cons, namesEq]
  exact List.dropLast_concat

theorem namesBelow_ofNamesFromEnd {names : List Text} (nonempty : names ≠ [])
    (separate : ∀ name ∈ names, '/' ∉ name) :
    (ofNamesFromEnd (dropIdleNames names)).namesBelow =
      (dropIdleNames names).reverse := by
  have keptSeparate : ∀ name ∈ dropIdleNames names, '/' ∉ name :=
    fun name member => separate name ((dropIdleNames_suffix names).subset member)
  rcases dropIdleNames_cases nonempty with
    ⟨first, keptEq⟩ | ⟨last, next, rest, keptEq, lastNonempty⟩
  · rw [keptEq] at keptSeparate ⊢
    by_cases root : first = []
    · rw [root]
      rfl
    · have written : ofNamesFromEnd [first] = ⟨Text.joined ['/'] ([] ++ [first])⟩ := by
        cases first with
        | nil => exact absurd rfl root
        | cons c first => rfl
      rw [written]
      exact namesBelow_of_joined keptSeparate root
  · rw [keptEq] at keptSeparate ⊢
    have reversed :
        (last :: next :: rest).reverse = (next :: rest).reverse ++ [last] :=
      List.reverse_cons
    have written :
        ofNamesFromEnd (last :: next :: rest) =
          ⟨Text.joined ['/'] (last :: next :: rest).reverse⟩ := by
      cases last with
      | nil => exact absurd rfl lastNonempty
      | cons c last => rfl
    rw [written, reversed]
    refine namesBelow_of_joined (fun name member => keptSeparate name ?_)
      lastNonempty
    rw [← reversed] at member
    exact List.mem_reverse.mp member

/-- The names below the directory that holds a plain name are those in front of
the name, but for some at the end that mean nothing. -/
theorem exists_parent {name : Text} (isName : IsName name) (base : Path) :
    ∃ parent idle, (base.join ⟨name⟩).parent? = some parent ∧
      base.namesBelow = parent.namesBelow ++ idle ∧
      (∀ name ∈ idle, name = [] ∨ name = ['.']) ∧
      base.namesBelow.head? = parent.namesBelow.head? := by
  have parentEq := parent?_join_eq isName base
  -- The path may be the name alone; then its parent is the empty path.
  by_cases empty : base.namesBelow.reverse = []
  · rw [parentEq, if_pos empty, List.reverse_eq_nil_iff.mp empty]
    exact ⟨⟨[]⟩, [], rfl, rfl, by simp, rfl⟩
  · rw [parentEq, if_neg empty]
    have separate : ∀ name ∈ base.namesBelow.reverse, '/' ∉ name :=
      fun name member => noSlash_of_mem_namesBelow (List.mem_reverse.mp member)
    have keptNames := namesBelow_ofNamesFromEnd empty separate
    obtain ⟨idle, idleEq, meansNothing⟩ :=
      exists_idle_append base.namesBelow.reverse
    have namesEq :
        base.namesBelow =
          (dropIdleNames base.namesBelow.reverse).reverse ++ idle.reverse := by
      rw [← List.reverse_append, ← idleEq, List.reverse_reverse]
    have keptNonempty : (dropIdleNames base.namesBelow.reverse).reverse ≠ [] := by
      rcases dropIdleNames_cases empty with
        ⟨first, keptEq⟩ | ⟨last, next, rest, keptEq, _⟩ <;>
        simp [keptEq]
    refine ⟨_, idle.reverse, rfl, by rw [keptNames]; exact namesEq,
      fun name member => meansNothing name (List.mem_reverse.mp member), ?_⟩
    rw [keptNames]
    exact (congrArg List.head? namesEq).trans
      (List.head?_append_of_ne_nil _ keptNonempty)

end Path

namespace FileSystem

variable {files : FileSystem} {base : Path} {location : Location}
  {name relative : Text}

/-! ## Following relative paths -/

/-- A relative path is followed from the place of the path that it is put
below. -/
theorem locate_join (isRelative : Path.isAbsolute ⟨relative⟩ = false)
    (nonempty : relative ≠ []) :
    files.locate (base.join ⟨relative⟩) =
      base.namesBelow.foldlM files.enter (files.start (base.join ⟨[]⟩)) >>=
        (Text.splitAtEach '/' relative).foldlM files.enter := by
  have written : (base.join ⟨relative⟩).text.isEmpty = false := by
    simp [Path.join_of_relative isRelative, nonempty]
  have sameStart :
      files.start (base.join ⟨relative⟩) = files.start (base.join ⟨[]⟩) := by
    rw [start, start, Path.isAbsolute_join_relative isRelative]
  rw [locate, written, sameStart, Path.splitAtEach_join_relative isRelative]
  exact List.foldlM_append

@[simp]
theorem start_join_empty (files : FileSystem) (base : Path) :
    files.start (base.join ⟨[]⟩) = files.start base := by
  rw [start, start, Path.isAbsolute_join_empty]

theorem foldlM_namesBelow (located : files.locate base = .ok location) :
    base.namesBelow.foldlM files.enter (files.start (base.join ⟨[]⟩)) =
      .ok location := by
  obtain ⟨_, entered⟩ := locate_eq_ok_iff.mp located
  obtain ⟨empties, namesEq, empty⟩ := base.exists_empties
  rw [namesEq, foldlM_enter_append] at entered
  obtain ⟨middle, enteredMiddle, enteredEmpties⟩ := entered
  rw [start_join_empty, enteredMiddle,
    eq_of_foldlM_enter_empty empty enteredEmpties]

/-- A file is put below a path only where the path names a directory. -/
theorem Leads.isDirectory_base (leads : files.Leads (base.join ⟨name⟩) location)
    (isName : Path.IsName name) :
    base.text = [] ∨ files.isDirectory base = true := by
  by_cases empty : base.text = []
  · exact Or.inl empty
  · obtain ⟨directory, entered, standing, _⟩ := (target_join isName).mp leads.target
    obtain ⟨empties, namesEq, allEmpty⟩ := base.exists_empties
    have located : files.locate base = .ok directory := by
      rw [locate_eq_ok_iff, namesEq, foldlM_enter_append, ← start_join_empty]
      exact ⟨empty, directory, entered, foldlM_enter_empty allEmpty standing⟩
    exact Or.inr (isDirectory_iff.mpr ⟨directory, located, standing⟩)

theorem locate_join_eq_enter (isName : Path.IsName name)
    (located : files.locate base = .ok location) :
    files.locate (base.join ⟨name⟩) = files.enter location name := by
  rw [locate_join (Path.isAbsolute_of_noSlash isName.noSlash) isName.nonempty,
    foldlM_namesBelow located, ok_bind,
    Text.splitAtEach_eq_singleton isName.noSlash, List.foldlM_cons]
  exact bind_pure _

/-- A plain name below a directory is the place of that name in it. -/
theorem locate_join_name (isName : Path.IsName name)
    (located : files.locate base = .ok location)
    (isDirectory : files.entry? location = some .directory) :
    files.locate (base.join ⟨name⟩) = .ok (location ++ [name]) := by
  rw [locate_join_eq_enter isName located]
  exact (enter_isName isName).mpr ⟨isDirectory, rfl⟩

theorem eq_of_foldlM_enter_idle {names : List Text} {directory : Location}
    (idle : ∀ name ∈ names, name = [] ∨ name = ['.'])
    (entered : names.foldlM files.enter directory = .ok location) :
    directory = location := by
  induction names with
  | nil =>
      exact Except.ok.inj entered
  | cons name names inductionHypothesis =>
      rw [List.foldlM_cons, bind_eq_ok_iff] at entered
      obtain ⟨next, enteredNext, enteredRest⟩ := entered
      have same : directory = next := by
        obtain ⟨_, nextEq⟩ := enter_eq_ok_iff.mp enteredNext
        rw [← nextEq, stepTo]
        rcases idle name List.mem_cons_self with rfl | rfl <;> rfl
      rw [← same] at enteredRest
      exact inductionHypothesis
        (fun other member => idle other (List.mem_cons_of_mem name member))
        enteredRest

/-- A relative path beside a file is followed from the directory of the file. -/
theorem Leads.locate_beside (leads : files.Leads (base.join ⟨name⟩) location)
    (isName : Path.IsName name)
    (isRelative : Path.isAbsolute ⟨relative⟩ = false) (nonempty : relative ≠ []) :
    files.locate ((base.join ⟨name⟩).beside relative) =
      files.locate (base.join ⟨relative⟩) := by
  obtain ⟨parent, idle, parentEq, namesEq, meansNothing, sameFirst⟩ :=
    Path.exists_parent isName base
  obtain ⟨directory, entered, _, _⟩ := (target_join isName).mp leads.target
  -- The parent has fewer names than the base, but both are followed to one place.
  have sameStart :
      files.start (parent.join ⟨[]⟩) = files.start (base.join ⟨[]⟩) := by
    have sameRoot :
        (parent.join ⟨[]⟩).isAbsolute = (base.join ⟨[]⟩).isAbsolute := by
      rw [Bool.eq_iff_iff, Path.isAbsolute_join_empty_iff,
        Path.isAbsolute_join_empty_iff, sameFirst]
    rw [start, start, sameRoot]
  have enteredParent :
      parent.namesBelow.foldlM files.enter (files.start (base.join ⟨[]⟩)) =
        .ok directory := by
    rw [namesEq, foldlM_enter_append] at entered
    obtain ⟨middle, enteredMiddle, enteredIdle⟩ := entered
    rw [enteredMiddle, eq_of_foldlM_enter_idle meansNothing enteredIdle]
  rw [Path.beside, parentEq, Option.getD_some, locate_join isRelative nonempty,
    locate_join isRelative nonempty, sameStart, enteredParent, entered]

/-- A step up from a directory leads back to the directory above it. -/
theorem Leads.locate_join_above {other : Text}
    (leads : files.Leads ((base.join ⟨name⟩).join ⟨other⟩) location)
    (isName : Path.IsName name) (otherIsName : Path.IsName other)
    (isRelative : Path.isAbsolute ⟨relative⟩ = false) (nonempty : relative ≠ []) :
    files.locate ((base.join ⟨name⟩).join ⟨'.' :: '.' :: '/' :: relative⟩) =
      files.locate (base.join ⟨relative⟩) := by
  obtain ⟨directory, entered, locationEq⟩ :=
    leads.exists_directory isName otherIsName
  obtain ⟨inner, innerEntered, standing, targetEq⟩ :=
    (target_join otherIsName).mp leads.target
  cases targetEq
  have innerEq : inner = directory ++ [name] := by
    rw [List.append_cons directory name [other]] at locationEq
    exact List.append_cancel_right locationEq
  have steppedUp : files.enter inner ['.', '.'] = .ok directory := by
    refine enter_eq_ok_iff.mpr ⟨standing, ?_⟩
    rw [innerEq]
    exact List.dropLast_concat
  have split :
      Text.splitAtEach '/' ('.' :: '.' :: '/' :: relative) =
        ['.', '.'] :: Text.splitAtEach '/' relative :=
    Text.splitAtEach_append_cons '/' ['.', '.'] relative
  rw [locate_join rfl (List.cons_ne_nil _ _), innerEntered, ok_bind, split,
    List.foldlM_cons, steppedUp, ok_bind, locate_join isRelative nonempty, entered,
    ok_bind]

end FileSystem

end Marginalia
