import Marginalia.Proofs.FileSystem.Writing

/-!
# Names in a directory

A path with a plain name put below it leads to the entry of that name in one
directory, whichever name it is.  A file stands at a place whose last name is
the file name of every path that leads to it.
-/

namespace Marginalia

/-! ## Plain names -/

namespace Path

variable {base path : Path} {name other : Text}

theorem isAbsolute_iff : path.isAbsolute = true ↔ path.text.head? = some '/' := by
  rw [isAbsolute, Text.startsWith_iff]
  cases path.text with
  | nil => simp
  | cons c rest => simp [List.cons_prefix_cons, eq_comm]

theorem isAbsolute_of_noSlash (noSlash : '/' ∉ name) :
    isAbsolute ⟨name⟩ = false := by
  rw [← Bool.not_eq_true, isAbsolute_iff]
  exact fun slash => noSlash (List.mem_of_head? slash)

theorem join_of_noSlash (noSlash : '/' ∉ name) (base : Path) :
    base.join ⟨name⟩ = ⟨(base.join ⟨[]⟩).text ++ name⟩ := by
  have empty : isAbsolute ⟨[]⟩ = false := rfl
  rw [join, join, isAbsolute_of_noSlash noSlash, empty]
  simp only [Bool.false_eq_true, if_false, List.append_nil]
  split <;> rfl

/-- What stands in front of a name put below a path ends in a slash. -/
theorem join_empty_cases (base : Path) :
    (base.join ⟨[]⟩).text = [] ∨
      ∃ front, (base.join ⟨[]⟩).text = front ++ ['/'] := by
  have empty : isAbsolute ⟨[]⟩ = false := rfl
  rw [join, empty]
  simp only [Bool.false_eq_true, if_false, List.append_nil]
  split
  · next bare =>
      rcases Bool.or_eq_true_iff.mp bare with isEmpty | slash
      · exact Or.inl (List.isEmpty_iff.mp isEmpty)
      · obtain ⟨front, frontEq⟩ :=
          List.getLast?_eq_some_iff.mp (beq_iff_eq.mp slash)
        exact Or.inr ⟨front, frontEq⟩
  · exact Or.inr ⟨base.text, rfl⟩

/-- The names on the way to what is put below a path. -/
def namesBelow (base : Path) : List Text :=
  (Text.splitAtEach '/' (base.join ⟨[]⟩).text).dropLast

theorem splitAtEach_join (noSlash : '/' ∉ name) (base : Path) :
    Text.splitAtEach '/' (base.join ⟨name⟩).text = base.namesBelow ++ [name] := by
  rw [join_of_noSlash noSlash, namesBelow]
  rcases base.join_empty_cases with empty | ⟨front, frontEq⟩
  · rw [empty, List.nil_append, Text.splitAtEach_eq_singleton noSlash]
    rfl
  · have cut (rest : Text) :
        Text.splitAtEach '/' (front ++ ['/'] ++ rest) =
          Text.splitAtEach '/' front ++ Text.splitAtEach '/' rest := by
      rw [List.append_assoc, List.singleton_append,
        Text.splitAtEach_append_cons]
    have cutEmpty := cut []
    rw [List.append_nil] at cutEmpty
    rw [frontEq, cut, cutEmpty, Text.splitAtEach_eq_singleton noSlash]
    show _ = (Text.splitAtEach '/' front ++ [[]]).dropLast ++ [name]
    rw [List.dropLast_concat]

theorem isAbsolute_join (noSlash : '/' ∉ name) (base : Path) :
    (base.join ⟨name⟩).isAbsolute = (base.join ⟨[]⟩).isAbsolute := by
  rw [Bool.eq_iff_iff, isAbsolute_iff, isAbsolute_iff, join_of_noSlash noSlash]
  rcases base.join_empty_cases with empty | ⟨front, frontEq⟩
  · rw [empty]
    simpa using fun slash => noSlash (List.mem_of_head? slash)
  · rw [frontEq]
    cases front <;> simp

/-- A slash is put between a plain name and what comes below it. -/
theorem join_join_empty (isName : IsName name) (base : Path) :
    (base.join ⟨name⟩).join ⟨[]⟩ = ⟨(base.join ⟨name⟩).text ++ ['/']⟩ := by
  have empty : isAbsolute ⟨[]⟩ = false := rfl
  have lastNoSlash : name.getLast? ≠ some '/' := fun slash =>
    isName.noSlash (List.mem_of_getLast? slash)
  rw [join_of_noSlash isName.noSlash]
  rw [join, empty]
  simp [isName.nonempty, List.getLast?_append, lastNoSlash]

theorem namesBelow_join (isName : IsName name) (base : Path) :
    (base.join ⟨name⟩).namesBelow = base.namesBelow ++ [name] := by
  rw [namesBelow, join_join_empty isName, Text.splitAtEach_append_cons,
    splitAtEach_join isName.noSlash]
  exact List.dropLast_concat

theorem isAbsolute_join_join (isName : IsName name) (base : Path) :
    ((base.join ⟨name⟩).join ⟨[]⟩).isAbsolute = (base.join ⟨[]⟩).isAbsolute := by
  have nonempty : (base.join ⟨name⟩).text ≠ [] := by
    simp [join_of_noSlash isName.noSlash, isName.nonempty]
  rw [← isAbsolute_join isName.noSlash base, Bool.eq_iff_iff, isAbsolute_iff,
    isAbsolute_iff, join_join_empty isName, List.head?_append_of_ne_nil _ nonempty]

theorem namesFromEnd_join (noSlash : '/' ∉ name) (base : Path) :
    (base.join ⟨name⟩).namesFromEnd = name :: base.namesBelow.reverse := by
  rw [namesFromEnd, splitAtEach_join noSlash, List.reverse_append]
  rfl

theorem dropIdleNames_cons (nonempty : name ≠ []) (notHere : name ≠ ['.'])
    (names : List Text) : dropIdleNames (name :: names) = name :: names := by
  cases names with
  | nil => rfl
  | cons next rest => simp [dropIdleNames, nonempty, notHere]

theorem dropIdleNames_suffix (names : List Text) : dropIdleNames names <:+ names := by
  fun_induction dropIdleNames names with
  | case1 => exact List.suffix_rfl
  | case2 first => exact List.suffix_rfl
  | case3 name next rest _ inductionHypothesis =>
      exact inductionHypothesis.trans (List.suffix_cons name _)
  | case4 name next rest _ => exact List.suffix_rfl

/-- A file name is the last name that means something, if it is no way back. -/
theorem fileName?_eq {front : List Text} (nonempty : name ≠ [])
    (notHere : name ≠ ['.'])
    (namesEq : Text.splitAtEach '/' path.text = front ++ [name]) :
    path.fileName? = if name = ['.', '.'] then none else some name := by
  rw [fileName?, namesFromEnd, namesEq, List.reverse_append,
    List.reverse_singleton, List.singleton_append,
    dropIdleNames_cons nonempty notHere]
  cases front.reverse <;> simp [nonempty, notHere]

theorem noSlash_of_fileName? (named : path.fileName? = some name) :
    '/' ∉ name := by
  have member : name ∈ dropIdleNames path.namesFromEnd := by
    rw [fileName?] at named
    split at named
    · cases named
    · next only namesEq =>
        split at named
        · cases named
        · cases named
          rw [namesEq]
          exact List.mem_cons_self
    · next first _ _ namesEq =>
        split at named
        · cases named
        · cases named
          rw [namesEq]
          exact List.mem_cons_self
  have written := (dropIdleNames_suffix _).subset member
  exact Text.not_mem_of_mem_splitAtEach (List.mem_reverse.mp written)

theorem parent?_join_eq (isName : IsName name) (base : Path) :
    (base.join ⟨name⟩).parent? =
      if base.namesBelow.reverse = [] then some ⟨[]⟩
      else some (ofNamesFromEnd (dropIdleNames base.namesBelow.reverse)) := by
  rw [parent?, namesFromEnd_join isName.noSlash,
    dropIdleNames_cons isName.nonempty isName.notHere]
  cases base.namesBelow.reverse <;> simp [isName.nonempty]

/-- Plain names below a path have the same directory. -/
theorem parent?_join (isName : IsName name) (otherIsName : IsName other)
    (base : Path) :
    (base.join ⟨name⟩).parent? = (base.join ⟨other⟩).parent? := by
  rw [parent?_join_eq isName, parent?_join_eq otherIsName]

end Path

namespace FileSystem

variable {files : FileSystem} {base path : Path} {location : Location}
  {name other : Text}

/-! ## Places of names -/

theorem start_join (noSlash : '/' ∉ name) :
    files.start (base.join ⟨name⟩) = files.start (base.join ⟨[]⟩) := by
  rw [start, start, Path.isAbsolute_join noSlash]

theorem target_join (isName : Path.IsName name) {target : Target} :
    files.target (base.join ⟨name⟩) = .ok target ↔
      ∃ directory,
        base.namesBelow.foldlM files.enter (files.start (base.join ⟨[]⟩)) =
          .ok directory ∧
        files.entry? directory = some .directory ∧
        target = ⟨directory ++ [name], false, false⟩ := by
  have written :
      (Text.splitAtEach '/' (base.join ⟨name⟩).text).reverse =
        name :: base.namesBelow.reverse := by
    rw [Path.splitAtEach_join isName.noSlash, List.reverse_append]
    rfl
  have lastName :
      (name :: base.namesBelow.reverse).dropWhile List.isEmpty =
        name :: base.namesBelow.reverse := by
    simp [isName.nonempty]
  rw [FileSystem.target]
  simp only [written, lastName, List.reverse_reverse,
    start_join isName.noSlash, bind_eq_ok_iff, enter_isName isName]
  constructor
  · rintro ⟨directory, entered, location, ⟨standing, rfl⟩, targetEq⟩
    refine ⟨directory, entered, standing, ?_⟩
    rw [← Except.ok.inj targetEq]
    simp [isName.nonempty, isName.notHere, isName.notAbove]
  · rintro ⟨directory, entered, standing, rfl⟩
    refine ⟨directory, entered, _, ⟨standing, rfl⟩, ?_⟩
    simp [isName.nonempty, isName.notHere, isName.notAbove]

/-- Where one name leads to a place, another one leads to a place beside it. -/
theorem Leads.sibling (leads : files.Leads (base.join ⟨name⟩) location)
    (isName : Path.IsName name) (otherIsName : Path.IsName other) :
    files.Leads (base.join ⟨other⟩) (location.dropLast ++ [other]) where
  target := by
    obtain ⟨directory, entered, standing, targetEq⟩ :=
      (target_join isName).mp leads.target
    cases targetEq
    rw [List.dropLast_concat]
    exact (target_join otherIsName).mpr ⟨directory, entered, standing, rfl⟩
  parent parent parentEq :=
    leads.parent parent
      (Path.parent?_join isName otherIsName base ▸ parentEq)

/-- Two names put below a path are the last two names of the place that they lead
to; the names in front are those of one directory. -/
theorem Leads.exists_directory
    (leads : files.Leads ((base.join ⟨name⟩).join ⟨other⟩) location)
    (isName : Path.IsName name) (otherIsName : Path.IsName other) :
    ∃ directory,
      base.namesBelow.foldlM files.enter (files.start (base.join ⟨[]⟩)) =
        .ok directory ∧
      location = directory ++ [name, other] := by
  obtain ⟨inner, entered, _, targetEq⟩ := (target_join otherIsName).mp leads.target
  cases targetEq
  have startEq :
      files.start ((base.join ⟨name⟩).join ⟨[]⟩) =
        files.start (base.join ⟨[]⟩) := by
    rw [start, start, Path.isAbsolute_join_join isName]
  rw [Path.namesBelow_join isName, startEq, foldlM_enter_append] at entered
  obtain ⟨directory, enteredDirectory, enteredName⟩ := entered
  rw [List.foldlM_cons, bind_eq_ok_iff] at enteredName
  obtain ⟨_, enteredName, innerEq⟩ := enteredName
  cases innerEq
  obtain ⟨_, rfl⟩ := (enter_isName isName).mp enteredName
  exact ⟨directory, enteredDirectory, by simp⟩

/-- A file stands at a place whose last name is its file name. -/
theorem getLast?_of_fileName? {contents : Contents}
    (located : files.locate path = .ok location)
    (standing : files.entry? location = some (.file contents))
    (named : path.fileName? = some name) : location.getLast? = some name := by
  obtain ⟨_, entered⟩ := locate_eq_ok_iff.mp located
  obtain ⟨front, last, namesEq⟩ :=
    (List.eq_nil_or_concat' (Text.splitAtEach '/' path.text)).resolve_left
      (Text.splitAtEach_ne_nil '/' path.text)
  rw [namesEq, foldlM_enter_append] at entered
  obtain ⟨directory, _, enteredLast⟩ := entered
  rw [List.foldlM_cons, bind_eq_ok_iff] at enteredLast
  obtain ⟨_, enteredLast, locationEq⟩ := enteredLast
  cases locationEq
  obtain ⟨isDirectory, stepEq⟩ := enter_eq_ok_iff.mp enteredLast
  rw [stepTo] at stepEq
  split at stepEq
  · -- The last name stands for the directory itself, which is no file.
    rw [← stepEq, isDirectory] at standing
    cases standing
  · next notIdle =>
      rw [Bool.or_eq_true, not_or, List.isEmpty_iff, decide_eq_true_iff] at notIdle
      rw [Path.fileName?_eq notIdle.1 notIdle.2 namesEq] at named
      split at named
      · cases named
      · next notAbove =>
          rw [if_neg notAbove] at stepEq
          cases named
          rw [← stepEq, List.getLast?_concat]

end FileSystem

end Marginalia
