import Marginalia.FileSystem
import Marginalia.Proofs.Text.Run
import Mathlib.Data.Char
import Mathlib.Data.List.Lex

/-!
# Entries after a change

An entry put where it can stand stands there, and all other locations keep their
entries.  Files put at different locations can be put in any order, and the
result is the same list.
-/

namespace Marginalia

/-! ## Lists of entries -/

namespace Entries

variable {entries : Entries} {location other : Location} {entry : Entry}

@[simp]
theorem has_cons (placed : Location × Entry) (entries : Entries)
    (location : Location) :
    has (placed :: entries) location =
      (decide (placed.1 = location) || has entries location) :=
  rfl

theorem has_iff_mem :
    has entries location = true ↔ location ∈ entries.map Prod.fst := by
  simp [has]

@[simp]
theorem has_map_replace (entries : Entries) :
    has (entries.map (replace location entry)) other = has entries other := by
  simp [has, List.any_map, Function.comp_def]

@[simp]
theorem has_insert (entries : Entries) :
    has (insert location entry entries) other =
      (decide (location = other) || has entries other) := by
  induction entries with
  | nil =>
      simp [insert, has]
  | cons placed entries inductionHypothesis =>
      rw [insert_cons]
      split
      · rfl
      · rw [has_cons, inductionHypothesis, has_cons, Bool.or_left_comm]

theorem lookup_map_replace_self (present : has entries location = true) :
    (entries.map (replace location entry)).lookup location = some entry := by
  induction entries with
  | nil =>
      cases present
  | cons placed entries inductionHypothesis =>
      rw [List.map_cons, replace]
      split
      · next here =>
          rw [List.lookup_cons, here, beq_self_eq_true]
      · next elsewhere =>
          have later : has entries location = true := by
            simpa [has, elsewhere] using present
          rw [List.lookup_cons, beq_eq_false_iff_ne.mpr (Ne.symm elsewhere),
            inductionHypothesis later]

theorem lookup_insert_self (absent : has entries location = false) :
    (insert location entry entries).lookup location = some entry := by
  rw [has_eq_false_iff] at absent
  induction entries with
  | nil =>
      simp [insert]
  | cons placed entries inductionHypothesis =>
      have skip : (location == placed.1) = false :=
        beq_eq_false_iff_ne.mpr (Ne.symm (absent placed List.mem_cons_self))
      rw [insert_cons]
      split
      · simp
      · rw [List.lookup_cons, skip]
        exact inductionHypothesis fun later member =>
          absent later (List.mem_cons_of_mem placed member)

theorem put_of_has (present : has entries location = true) (entry : Entry) :
    entries.put location entry = entries.map (replace location entry) :=
  if_pos present

theorem put_of_not_has (absent : has entries location = false) (entry : Entry) :
    entries.put location entry = insert location entry entries :=
  if_neg (Bool.eq_false_iff.mp absent)

@[simp]
theorem lookup_put_self (location : Location) (entry : Entry)
    (entries : Entries) :
    (entries.put location entry).lookup location = some entry := by
  cases listed : has entries location with
  | true => rw [put_of_has listed, lookup_map_replace_self listed]
  | false => rw [put_of_not_has listed, lookup_insert_self listed]

/-! ## Trees -/

/-- What stands at a location below the root is what is listed there. -/
theorem entry?_eq_some_iff (distinct : (entries.map Prod.fst).Nodup)
    (notRoot : location ≠ []) :
    Entries.entry? entries location = some entry ↔
      (location, entry) ∈ entries := by
  have looked : Entries.entry? entries location = entries.lookup location :=
    if_neg (by simpa using notRoot)
  rw [looked]
  constructor
  · intro found
    obtain ⟨before, after, listed, _⟩ := List.lookup_eq_some_iff.mp found
    simp [listed]
  · exact lookup_of_mem distinct

/-- Entries form a tree in whatever order they are listed. -/
theorem IsTree.perm {others : Entries} (tree : entries.IsTree)
    (order : others.Perm entries) : others.IsTree := by
  have distinct : (others.map Prod.fst).Nodup :=
    (order.map Prod.fst).nodup_iff.mpr tree.distinct
  refine ⟨fun placed member => tree.named placed (order.mem_iff.mp member),
    distinct, ?_⟩
  intro placed member
  have standing := tree.inDirectory placed (order.mem_iff.mp member)
  by_cases root : placed.1.dropLast = []
  · rw [root]
    rfl
  · rw [entry?_eq_some_iff tree.distinct root] at standing
    rw [entry?_eq_some_iff distinct root]
    exact order.mem_iff.mpr standing

/-! ## Changing the order of changes -/

theorem map_replace_insert (different : location ≠ other)
    (entry otherEntry : Entry) (entries : Entries) :
    (insert other otherEntry entries).map (replace location entry) =
      insert other otherEntry (entries.map (replace location entry)) := by
  have kept :
      replace location entry (other, otherEntry) = (other, otherEntry) :=
    if_neg (Ne.symm different)
  induction entries with
  | nil =>
      simp [insert, kept]
  | cons placed entries inductionHypothesis =>
      rw [List.map_cons, insert_cons, insert_cons, replace_fst]
      split
      · rw [List.map_cons, List.map_cons, kept]
      · rw [List.map_cons, inductionHypothesis]

/-- Of two new entries the smaller one stands in front, whichever comes first. -/
theorem insert_comm_of_lt (smaller : location < other)
    (entry otherEntry : Entry) (entries : Entries) :
    insert location entry (insert other otherEntry entries) =
      insert other otherEntry (insert location entry entries) := by
  have notGreater : ¬ other < location := lt_asymm smaller
  induction entries with
  | nil =>
      simp [insert, smaller, notGreater]
  | cons placed entries inductionHypothesis =>
      by_cases beforeOther : other < placed.1
      · have before : location < placed.1 := lt_trans smaller beforeOther
        simp [insert_cons, smaller, notGreater, before, beforeOther]
      · by_cases before : location < placed.1
        · simp [insert_cons, notGreater, before, beforeOther]
        · simp [insert_cons, before, beforeOther, inductionHypothesis]

theorem insert_comm (different : location ≠ other)
    (entry otherEntry : Entry) (entries : Entries) :
    insert location entry (insert other otherEntry entries) =
      insert other otherEntry (insert location entry entries) := by
  rcases lt_trichotomy location other with smaller | same | greater
  · exact insert_comm_of_lt smaller entry otherEntry entries
  · exact absurd same different
  · exact (insert_comm_of_lt greater otherEntry entry entries).symm

theorem map_replace_comm (different : location ≠ other)
    (entry otherEntry : Entry) (entries : Entries) :
    (entries.map (replace location entry)).map (replace other otherEntry) =
      (entries.map (replace other otherEntry)).map (replace location entry) := by
  rw [List.map_map, List.map_map]
  apply List.map_congr_left
  intro placed _
  by_cases here : placed.1 = location
  · simp [replace, here, different]
  · by_cases there : placed.1 = other
    · simp [replace, there, Ne.symm different]
    · simp [replace, here, there]

theorem put_comm (different : location ≠ other) (entry otherEntry : Entry)
    (entries : Entries) :
    (entries.put location entry).put other otherEntry =
      (entries.put other otherEntry).put location entry := by
  cases here : has entries location <;>
    cases there : has entries other <;>
    simp [put_of_has, put_of_not_has, here, there, different,
      Ne.symm different, map_replace_insert, map_replace_comm different,
      insert_comm different]

end Entries

/-! ## Looking up an entry -/

namespace FileSystem

variable {files : FileSystem} {location other : Location} {entry : Entry}

@[simp]
theorem entry?_root (files : FileSystem) :
    files.entry? [] = some .directory :=
  rfl

theorem ne_root (notDirectory : files.entry? location ≠ some .directory) :
    location ≠ [] := by
  rintro rfl
  exact notDirectory (entry?_root files)

theorem entry?_eq_lookup (notRoot : location ≠ []) (files : FileSystem) :
    files.entry? location = files.entries.lookup location :=
  if_neg (by simpa using notRoot)

/-- What stands at a location below the root is what is listed there. -/
theorem entry?_eq_some_iff (notRoot : location ≠ []) :
    files.entry? location = some entry ↔ (location, entry) ∈ files.entries :=
  Entries.entry?_eq_some_iff files.isTree.distinct notRoot

theorem isName_of_standing (standing : files.entry? location = some entry) :
    ∀ name ∈ location, Path.IsName name := by
  by_cases root : location = []
  · simp [root]
  · exact files.isTree.named _ ((entry?_eq_some_iff root).mp standing)

theorem isDirectory_of_standing {directory : Location} {name : Text}
    (standing : files.entry? (directory ++ [name]) = some entry) :
    files.entry? directory = some .directory := by
  have listed : (directory ++ [name], entry) ∈ files.entries :=
    (entry?_eq_some_iff (by simp)).mp standing
  have parent := files.isTree.inDirectory _ listed
  rwa [List.dropLast_concat] at parent

theorem admits_iff :
    files.entries.Admits location ↔
      (∀ name ∈ location, Path.IsName name) ∧
        files.entry? location.dropLast = some .directory ∧
        files.entry? location ≠ some .directory :=
  ⟨fun admits => ⟨admits.named, admits.inDirectory, admits.noDirectory⟩,
    fun ⟨named, inDirectory, noDirectory⟩ => ⟨named, inDirectory, noDirectory⟩⟩

/-- A file can be written over. -/
theorem admits_of_file {contents : Contents}
    (standing : files.entry? location = some (.file contents)) :
    files.entries.Admits location := by
  refine admits_iff.mpr ⟨isName_of_standing standing, ?_, by simp [standing]⟩
  rcases List.eq_nil_or_concat' location with rfl | ⟨directory, name, rfl⟩
  · exact entry?_root files
  · rw [List.dropLast_concat]
    exact isDirectory_of_standing standing

/-! ## Putting an entry -/

theorem entries_put (admits : files.entries.Admits location) (entry : Entry) :
    (files.put location entry).entries = files.entries.put location entry := by
  rw [put, dif_pos admits]

theorem put_of_not_admits (refused : ¬ files.entries.Admits location)
    (entry : Entry) : files.put location entry = files :=
  dif_neg refused

@[simp]
theorem workingDirectory_put (files : FileSystem) (location : Location)
    (entry : Entry) :
    (files.put location entry).workingDirectory = files.workingDirectory := by
  rw [put]
  split <;> rfl

theorem entry?_put_self (admits : files.entries.Admits location)
    (entry : Entry) :
    FileSystem.entry? (files.put location entry) location = some entry := by
  rw [entry?_eq_lookup (ne_root admits.noDirectory), entries_put admits,
    Entries.lookup_put_self]

theorem entry?_put_of_ne (different : other ≠ location) (files : FileSystem)
    (entry : Entry) :
    FileSystem.entry? (files.put location entry) other = files.entry? other := by
  by_cases admits : files.entries.Admits location
  · unfold FileSystem.entry?
    rw [entries_put admits]
    exact Entries.entry?_put_of_ne different entry files.entries
  · rw [put_of_not_admits admits]

/-- No file takes the place of a directory. -/
@[simp]
theorem isDirectory_put_file_iff (contents : Contents) :
    FileSystem.entry? (files.put location (.file contents)) other =
        some .directory ↔
      files.entry? other = some .directory := by
  by_cases admits : files.entries.Admits location
  · by_cases here : other = location
    · rw [here, entry?_put_self admits]
      simp [(admits_iff.mp admits).2.2]
    · rw [entry?_put_of_ne here]
  · rw [put_of_not_admits admits]

@[simp]
theorem admits_put_file_iff (contents : Contents) :
    (files.put location (.file contents)).entries.Admits other ↔
      files.entries.Admits other := by
  simp only [admits_iff, isDirectory_put_file_iff, Ne]

/-- Files can be put at two locations in either order. -/
theorem put_comm (different : location ≠ other) (files : FileSystem)
    (contents otherContents : Contents) :
    (files.put location (.file contents)).put other (.file otherContents) =
      (files.put other (.file otherContents)).put location (.file contents) := by
  by_cases admits : files.entries.Admits location
  · by_cases otherAdmits : files.entries.Admits other
    · apply FileSystem.ext
      · rw [entries_put ((admits_put_file_iff _).mpr otherAdmits),
          entries_put ((admits_put_file_iff _).mpr admits), entries_put admits,
          entries_put otherAdmits, Entries.put_comm different]
      · simp
    · rw [put_of_not_admits otherAdmits,
        put_of_not_admits ((admits_put_file_iff _).not.mpr otherAdmits)]
  · rw [put_of_not_admits admits,
      put_of_not_admits ((admits_put_file_iff _).not.mpr admits)]

end FileSystem

end Marginalia
