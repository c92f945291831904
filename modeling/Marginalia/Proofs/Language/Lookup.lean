import Marginalia.Language.Registry
import Marginalia.Proofs.Path.Extension
import Marginalia.Proofs.Text.Run
import Mathlib.Data.List.Induction

/-!
# Lookups in the table of languages

The index of a table is built row after row, and an extension that a row repeats or
takes over has one entry all the same: that of the last row that has it.  A name is
looked up in the table itself and belongs to the first row that has it.  So a new last
row answers for its extensions, but not for a name that was there before.
-/

namespace Marginalia

/-! ## Rows -/

namespace Registry

/-- The last row of a table whose language satisfies a condition. -/
structure IsLastRow (holds : Language → Prop) (table : List Language) (row : Nat)
    (language : Language) : Prop where
  stands : table[row]? = some language
  fits : holds language
  last : ∀ later other, table[later]? = some other → holds other → later ≤ row

/-- The first row of a table whose language satisfies a condition. -/
structure IsFirstRow (holds : Language → Prop) (table : List Language) (row : Nat)
    (language : Language) : Prop where
  stands : table[row]? = some language
  fits : holds language
  first : ∀ earlier other, table[earlier]? = some other → holds other → row ≤ earlier

section Row

variable {holds : Language → Prop} {table : List Language} {added language : Language}
  {row : Nat}

theorem getElem?_append_row_iff :
    (table ++ [added])[row]? = some language ↔
      table[row]? = some language ∨ row = table.length ∧ language = added := by
  by_cases before : row < table.length
  · have notLast : row ≠ table.length := Nat.ne_of_lt before
    simp [List.getElem?_append_left before, notLast]
  · have outside : table[row]? = none :=
      List.getElem?_eq_none (Nat.le_of_not_lt before)
    rw [List.getElem?_append_right (Nat.le_of_not_lt before), outside,
      List.getElem?_singleton]
    split
    · next here =>
        have atEnd : row = table.length := by
          omega
        simp [atEnd, eq_comm]
    · next beyond =>
        have notLast : row ≠ table.length := by
          omega
        simp [notLast]

theorem IsLastRow.row_lt (isLast : IsLastRow holds table row language) :
    row < table.length :=
  (List.getElem?_eq_some_iff.mp isLast.stands).1

/-- A new row that satisfies the condition is the last one; any other new row
changes nothing. -/
theorem isLastRow_append_iff :
    IsLastRow holds (table ++ [added]) row language ↔
      (holds added ∧ row = table.length ∧ language = added) ∨
        (¬ holds added ∧ IsLastRow holds table row language) := by
  have newRow : (table ++ [added])[table.length]? = some added :=
    getElem?_append_row_iff.mpr (Or.inr ⟨rfl, rfl⟩)
  constructor
  · intro isLast
    by_cases taken : holds added
    · left
      have reached : table.length ≤ row :=
        isLast.last table.length added newRow taken
      have bound : row < (table ++ [added]).length := isLast.row_lt
      rw [List.length_append, List.length_singleton] at bound
      have atEnd : row = table.length := by
        omega
      have here := isLast.stands
      rw [atEnd, newRow] at here
      exact ⟨taken, atEnd, (Option.some.inj here).symm⟩
    · right
      rcases getElem?_append_row_iff.mp isLast.stands with stands | ⟨_, same⟩
      · refine ⟨taken, stands, isLast.fits, fun later other standsLater fits => ?_⟩
        exact isLast.last later other
          (getElem?_append_row_iff.mpr (Or.inl standsLater)) fits
      · exact absurd (same ▸ isLast.fits) taken
  · rintro (⟨taken, rfl, rfl⟩ | ⟨free, isLast⟩)
    · refine ⟨newRow, taken, fun later other stands _ => ?_⟩
      have bound := (List.getElem?_eq_some_iff.mp stands).1
      rw [List.length_append, List.length_singleton] at bound
      omega
    · refine ⟨getElem?_append_row_iff.mpr (Or.inl isLast.stands), isLast.fits,
        fun later other stands fits => ?_⟩
      rcases getElem?_append_row_iff.mp stands with standsBefore | ⟨_, same⟩
      · exact isLast.last later other standsBefore fits
      · exact absurd (same ▸ fits) free

end Row

end Registry

/-! ## The index -/

namespace ExtensionIndex

variable {index : ExtensionIndex} {extension : Text} {row : Nat}

theorem row?_eq_some_iff :
    index.row? extension = some row ↔ (extension, row) ∈ index.entries := by
  constructor
  · intro found
    obtain ⟨before, after, listed, _⟩ := List.lookup_eq_some_iff.mp found
    simp [listed]
  · exact lookup_of_mem index.distinct

theorem mem_enter_iff {entered : Text} {newRow : Nat} :
    (extension, row) ∈ (index.enter newRow entered).entries ↔
      (extension = entered ∧ row = newRow) ∨
        (extension ≠ entered ∧ (extension, row) ∈ index.entries) := by
  simp [enter, and_comm]

/-- A row takes over all its extensions, however often it names them, and no other
extension. -/
theorem mem_enterRow_iff {language : Language} {newRow : Nat} :
    (extension, row) ∈ (index.enterRow (language, newRow)).entries ↔
      (extension ∈ language.extensions ∧ row = newRow) ∨
        (extension ∉ language.extensions ∧ (extension, row) ∈ index.entries) := by
  rw [enterRow]
  generalize language.extensions = extensions
  induction extensions generalizing index with
  | nil =>
      simp
  | cons entered extensions inductionHypothesis =>
      rw [List.foldl_cons, inductionHypothesis, mem_enter_iff]
      -- An extension named again is entered again, with the same row.
      by_cases later : extension ∈ extensions
      · simp [later]
      · by_cases same : extension = entered
        · subst same
          simp [later]
        · simp [later, same]

end ExtensionIndex

/-! ## The registry -/

namespace Registry

variable {table : List Language} {added language : Language} {extension name : Text}
  {row : Nat}

theorem index_append (table : List Language) (added : Language) :
    index ⟨table ++ [added]⟩ =
      (index ⟨table⟩).enterRow (added, table.length) := by
  rw [index, List.zipIdx_append, List.foldl_append]
  simp [index]

/-- The entries of the index are the last rows that have an extension. -/
theorem mem_index_iff :
    (extension, row) ∈ (index ⟨table⟩).entries ↔
      ∃ language,
        IsLastRow (fun other => extension ∈ other.extensions) table row language := by
  -- Rows are entered from the front, so the induction takes the last one off.
  induction table using List.reverseRecOn with
  | nil =>
      constructor
      · intro entered
        cases entered
      · rintro ⟨language, isLast⟩
        cases isLast.row_lt
  | append_singleton table added inductionHypothesis =>
      rw [index_append, ExtensionIndex.mem_enterRow_iff, inductionHypothesis]
      simp only [isLastRow_append_iff, exists_or, exists_and_left, exists_eq,
        and_true]

theorem index_in_range {entry : Text × Nat} (entered : entry ∈ (index ⟨table⟩).entries) :
    entry.2 < table.length := by
  obtain ⟨language, isLast⟩ := mem_index_iff.mp entered
  exact isLast.row_lt

theorem ofExtension?_eq_some_iff :
    ofExtension? ⟨table⟩ extension = some language ↔
      ∃ row, IsLastRow (fun other => extension.lowercase ∈ other.extensions) table
        row language := by
  rw [ofExtension?, Option.bind_eq_some_iff]
  simp only [ExtensionIndex.row?_eq_some_iff, mem_index_iff]
  constructor
  · rintro ⟨row, ⟨standing, isLast⟩, stands⟩
    have same : standing = language :=
      Option.some.inj (isLast.stands.symm.trans stands)
    exact ⟨row, same ▸ isLast⟩
  · rintro ⟨row, isLast⟩
    exact ⟨row, ⟨language, isLast⟩, isLast.stands⟩

theorem ofExtension?_append (table : List Language) (added : Language)
    (extension : Text) :
    ofExtension? ⟨table ++ [added]⟩ extension =
      if extension.lowercase ∈ added.extensions then some added
      else ofExtension? ⟨table⟩ extension := by
  apply Option.ext
  intro language
  rw [ofExtension?_eq_some_iff]
  simp only [isLastRow_append_iff]
  split
  · next taken =>
      simp [taken, eq_comm]
  · next free =>
      simp [free, ofExtension?_eq_some_iff]

theorem ofExtension?_eq_none_iff :
    ofExtension? ⟨table⟩ extension = none ↔
      ∀ language ∈ table, extension.lowercase ∉ language.extensions := by
  induction table using List.reverseRecOn with
  | nil =>
      simp [ofExtension?]
  | append_singleton table added inductionHypothesis =>
      rw [ofExtension?_append]
      split
      · next taken =>
          simp [taken]
      · next free =>
          simp [inductionHypothesis, free, or_imp, forall_and]

theorem byName?_eq_some_iff :
    byName? ⟨table⟩ name = some language ↔
      ∃ row, IsFirstRow (fun other => other.name = name) table row language := by
  rw [byName?, List.find?_eq_some_iff_getElem]
  constructor
  · rintro ⟨named, row, bound, stands, noneBefore⟩
    refine ⟨row, List.getElem?_eq_some_iff.mpr ⟨bound, stands⟩, by simpa using named,
      fun earlier other standsEarlier fits => ?_⟩
    obtain ⟨_, otherEq⟩ := List.getElem?_eq_some_iff.mp standsEarlier
    apply Nat.le_of_not_lt
    intro before
    have different := noneBefore earlier before
    simp [otherEq, fits] at different
  · rintro ⟨row, isFirst⟩
    obtain ⟨bound, stands⟩ := List.getElem?_eq_some_iff.mp isFirst.stands
    refine ⟨by simpa using isFirst.fits, row, bound, stands, fun earlier before => ?_⟩
    have earlierBound : earlier < table.length := Nat.lt_trans before bound
    have different : table[earlier].name ≠ name := by
      intro fits
      have notBefore :=
        isFirst.first earlier _ (List.getElem?_eq_getElem earlierBound) fits
      omega
    simpa using different

theorem byName?_eq_none_iff :
    byName? ⟨table⟩ name = none ↔ ∀ language ∈ table, language.name ≠ name := by
  simp [byName?]

theorem byName?_append_of_ne_none (found : byName? ⟨table⟩ name ≠ none) :
    byName? ⟨table ++ [added]⟩ name = byName? ⟨table⟩ name := by
  obtain ⟨language, foundEq⟩ := Option.ne_none_iff_exists'.mp found
  have searched :
      byName? ⟨table ++ [added]⟩ name =
        (byName? ⟨table⟩ name).or (byName? ⟨[added]⟩ name) :=
    List.find?_append
  rw [searched, foundEq, Option.some_or]

theorem ofPath?_of_hasExtension {registry : Registry} {path : Path}
    (extended : path.HasExtension extension) :
    registry.ofPath? path = registry.ofExtension? extension := by
  rw [ofPath?, Path.extension?_eq_some_iff.mpr extended, Option.bind_some]

theorem ofPath?_of_no_extension {registry : Registry} {path : Path}
    (bare : ∀ extension, ¬ path.HasExtension extension) :
    registry.ofPath? path = none := by
  have absent : path.extension? = none := by
    apply Option.eq_none_iff_forall_ne_some.mpr
    intro extension found
    exact bare extension (Path.extension?_eq_some_iff.mp found)
  rw [ofPath?, absent, Option.bind_none]

/-- Lookups agree with the table.  The index holds the last row that has an extension,
so its rows are in range, and an extension in any letter case leads to the language
there.  A name leads to the first row that has it, and a path to where its extension
leads.  A row added at the end answers for its own extensions only, and leaves every
name that was found as it was. -/
theorem lookups_agree_with_table (table : List Language) :
    let registry : Registry := ⟨table⟩
    (∀ extension row, (extension, row) ∈ registry.index.entries ↔
      ∃ language, IsLastRow (fun other => extension ∈ other.extensions) table row
        language) ∧
    (∀ entry ∈ registry.index.entries, entry.2 < table.length) ∧
    (∀ extension language, registry.ofExtension? extension = some language ↔
      ∃ row, IsLastRow (fun other => extension.lowercase ∈ other.extensions) table
        row language) ∧
    (∀ extension, registry.ofExtension? extension = none ↔
      ∀ language ∈ table, extension.lowercase ∉ language.extensions) ∧
    (∀ name language, registry.byName? name = some language ↔
      ∃ row, IsFirstRow (fun other => other.name = name) table row language) ∧
    (∀ name, registry.byName? name = none ↔
      ∀ language ∈ table, language.name ≠ name) ∧
    (∀ path : Path, ∀ extension, path.HasExtension extension →
      registry.ofPath? path = registry.ofExtension? extension) ∧
    (∀ path : Path, (∀ extension, ¬ path.HasExtension extension) →
      registry.ofPath? path = none) ∧
    ∀ added : Language,
      let extended : Registry := ⟨table ++ [added]⟩
      (∀ extension, extended.ofExtension? extension =
        if extension.lowercase ∈ added.extensions then some added
        else registry.ofExtension? extension) ∧
      ∀ name, registry.byName? name ≠ none →
        extended.byName? name = registry.byName? name := by
  refine ⟨fun _ _ => mem_index_iff, fun _ => index_in_range,
    fun _ _ => ofExtension?_eq_some_iff, fun _ => ofExtension?_eq_none_iff,
    fun _ _ => byName?_eq_some_iff, fun _ => byName?_eq_none_iff,
    fun _ _ => ofPath?_of_hasExtension, fun _ => ofPath?_of_no_extension,
    fun added => ⟨fun _ => ofExtension?_append table added _, fun name found => ?_⟩⟩
  exact byName?_append_of_ne_none found

/-- The first row repeats an extension, the second takes over another one and has a
letter with an accent, and a third row of the first name comes too late for the name. -/
theorem lookups_agree_with_table_repeated :
    let first : Language := ⟨['a'], ['#'], [['x'], ['y'], ['x']]⟩
    let second : Language := ⟨['b'], ['%'], [['y'], ['é']]⟩
    let third : Language := ⟨['a'], [';'], [['z']]⟩
    let registry : Registry := ⟨[first, second]⟩
    let path : Path := ⟨['n', '.', 'Y']⟩
    let bare : Path := ⟨['n']⟩
    ((['y'], 1) ∈ registry.index.entries ∧ 1 < 2) ∧
    (path.HasExtension ['Y'] ∧ registry.ofPath? path = some second) ∧
    registry.ofExtension? ['É'] = some second ∧
    ((∀ extension, ¬ bare.HasExtension extension) ∧ registry.ofPath? bare = none) ∧
    (registry.byName? ['a'] ≠ none ∧
      byName? ⟨[first, second, third]⟩ ['a'] = some first) := by
  intro first second third registry path bare
  obtain ⟨_, inRange, ofExtension, _, _, _, ofPath, ofBarePath, ofExtended⟩ :=
    lookups_agree_with_table [first, second]
  have entered : (['y'], 1) ∈ registry.index.entries := by
    decide
  have extended : path.HasExtension ['Y'] :=
    ⟨['n'], by decide, by decide, by decide⟩
  have noExtension : ∀ extension, ¬ bare.HasExtension extension := by
    intro extension extended
    have found : bare.extension? = some extension :=
      Path.extension?_eq_some_iff.mpr extended
    cases found
  have leads {query : Text} (small : query.lowercase ∈ second.extensions) :
      registry.ofExtension? query = some second := by
    refine (ofExtension query second).mpr ⟨1, rfl, small, ?_⟩
    intro later other stands _
    have bound := (List.getElem?_eq_some_iff.mp stands).1
    exact Nat.le_of_lt_succ bound
  have found : registry.byName? ['a'] ≠ none := by
    decide
  refine ⟨⟨entered, inRange _ entered⟩, ⟨extended, ?_⟩, leads (by decide +kernel),
    ⟨noExtension, ofBarePath bare noExtension⟩, found, ?_⟩
  · rw [ofPath path ['Y'] extended]
    exact leads (by decide +kernel)
  · exact ((ofExtended third).2 ['a'] found).trans rfl

end Registry

end Marginalia
