import Marginalia.Path

/-!
# Trees of entries

The entries of a file system are listed with their locations: the names on the
way from the root. They form a tree: the names are plain, no two entries share a
location, and each stands in a directory. An entry that is put where it can stand
leaves a tree.
-/

namespace Marginalia

/-- The names on the way from the root. -/
abbrev Location := List Text

/-- What a file holds. -/
inductive Contents where
  | text (text : Text)
  /-- Bytes that are no text. -/
  | binary (bytes : List UInt8)
  deriving DecidableEq

def Contents.ofBytes (bytes : List UInt8) : Contents :=
  match String.fromUTF8? ⟨bytes.toArray⟩ with
  | some decoded => .text decoded.toList
  | none => .binary bytes

/-- What stands at a location. -/
inductive Entry where
  | directory
  | file (contents : Contents)
  deriving DecidableEq

def Entry.isDirectory : Entry → Bool
  | .directory => true
  | .file _ => false

/-- Entries at their locations. The root needs no entry. -/
abbrev Entries := List (Location × Entry)

namespace Entries

variable {entries : Entries} {location other : Location} {entry : Entry}

def entry? (entries : Entries) (location : Location) : Option Entry :=
  if location.isEmpty then some .directory else entries.lookup location

def has (entries : Entries) (location : Location) : Bool :=
  entries.any fun placed => placed.1 = location

/-- A listed entry, or another one in its place if it stands at a location. -/
def replace (location : Location) (entry : Entry) (placed : Location × Entry) :
    Location × Entry :=
  if placed.1 = location then (placed.1, entry) else placed

/-- Put a new entry before the first one with a greater location. -/
def insert (location : Location) (entry : Entry) : Entries → Entries
  | [] => [(location, entry)]
  | placed :: rest =>
      if location < placed.1 then (location, entry) :: placed :: rest
      else placed :: insert location entry rest

/-- Put an entry at a location, in place of the one that stands there. -/
def put (location : Location) (entry : Entry) (entries : Entries) : Entries :=
  if entries.has location then entries.map (replace location entry)
  else insert location entry entries

/-! ## Trees -/

/-- The entries have plain names and locations of their own, and each stands in
a directory. -/
structure IsTree (entries : Entries) : Prop where
  named : ∀ placed ∈ entries, ∀ name ∈ placed.1, Path.IsName name
  distinct : (entries.map Prod.fst).Nodup
  inDirectory : ∀ placed ∈ entries,
    entries.entry? placed.1.dropLast = some .directory

instance (entries : Entries) : Decidable entries.IsTree :=
  decidable_of_iff
    ((∀ placed ∈ entries, ∀ name ∈ placed.1, Path.IsName name) ∧
      (entries.map Prod.fst).Nodup ∧
      ∀ placed ∈ entries, entries.entry? placed.1.dropLast = some .directory)
    ⟨fun ⟨named, distinct, inDirectory⟩ => ⟨named, distinct, inDirectory⟩,
      fun tree => ⟨tree.named, tree.distinct, tree.inDirectory⟩⟩

/-- An entry can be put at a location: the names are plain, the directory is
there, and no other directory has to give way. -/
structure Admits (entries : Entries) (location : Location) : Prop where
  named : ∀ name ∈ location, Path.IsName name
  inDirectory : entries.entry? location.dropLast = some .directory
  noDirectory : entries.entry? location ≠ some .directory

instance (entries : Entries) (location : Location) :
    Decidable (entries.Admits location) :=
  decidable_of_iff
    ((∀ name ∈ location, Path.IsName name) ∧
      entries.entry? location.dropLast = some .directory ∧
      entries.entry? location ≠ some .directory)
    ⟨fun ⟨named, inDirectory, noDirectory⟩ => ⟨named, inDirectory, noDirectory⟩,
      fun admits => ⟨admits.named, admits.inDirectory, admits.noDirectory⟩⟩

/-! ## Other locations -/

theorem insert_cons (location : Location) (entry : Entry)
    (placed : Location × Entry) (rest : Entries) :
    insert location entry (placed :: rest) =
      if location < placed.1 then (location, entry) :: placed :: rest
      else placed :: insert location entry rest :=
  rfl

@[simp]
theorem replace_fst (location : Location) (entry : Entry)
    (placed : Location × Entry) :
    (replace location entry placed).1 = placed.1 := by
  rw [replace]
  split <;> rfl

theorem has_eq_false_iff :
    has entries location = false ↔ ∀ placed ∈ entries, placed.1 ≠ location := by
  simp [has]

theorem lookup_map_replace (different : other ≠ location) (entry : Entry)
    (entries : Entries) :
    (entries.map (replace location entry)).lookup other =
      entries.lookup other := by
  induction entries with
  | nil =>
      rfl
  | cons placed entries inductionHypothesis =>
      rw [List.map_cons, replace]
      split
      · next here =>
          have skip : (other == placed.1) = false :=
            beq_eq_false_iff_ne.mpr (here ▸ different)
          rw [List.lookup_cons, List.lookup_cons, skip, inductionHypothesis]
      · rw [List.lookup_cons, List.lookup_cons, inductionHypothesis]

theorem lookup_insert (different : other ≠ location) (entry : Entry)
    (entries : Entries) :
    (insert location entry entries).lookup other = entries.lookup other := by
  have skip : (other == location) = false := beq_eq_false_iff_ne.mpr different
  induction entries with
  | nil =>
      rw [insert, List.lookup_cons, skip]
  | cons placed entries inductionHypothesis =>
      rw [insert_cons]
      split
      · rw [List.lookup_cons, skip]
      · rw [List.lookup_cons, List.lookup_cons, inductionHypothesis]

theorem entry?_put_of_ne (different : other ≠ location) (entry : Entry)
    (entries : Entries) :
    Entries.entry? (entries.put location entry) other = entries.entry? other := by
  unfold Entries.entry?
  split
  · rfl
  · rw [put]
    split
    · exact lookup_map_replace different entry entries
    · exact lookup_insert different entry entries

/-! ## One more entry -/

@[simp]
theorem mem_insert {placed : Location × Entry} :
    placed ∈ insert location entry entries ↔
      placed = (location, entry) ∨ placed ∈ entries := by
  induction entries with
  | nil =>
      simp [insert]
  | cons first entries inductionHypothesis =>
      rw [insert_cons]
      split
      · rw [List.mem_cons]
      · rw [List.mem_cons, inductionHypothesis, List.mem_cons]
        exact or_left_comm

/-- What is listed after a change stands at the changed location or was listed
before. -/
theorem mem_put {placed : Location × Entry}
    (member : placed ∈ entries.put location entry) :
    placed.1 = location ∨ placed ∈ entries := by
  rw [put] at member
  split at member
  · obtain ⟨old, oldMember, rfl⟩ := List.mem_map.mp member
    by_cases here : old.1 = location
    · left
      rw [replace_fst, here]
    · right
      rwa [replace, if_neg here]
  · rcases mem_insert.mp member with rfl | old
    · exact Or.inl rfl
    · exact Or.inr old

theorem nodup_map_insert (distinct : (entries.map Prod.fst).Nodup)
    (absent : has entries location = false) (entry : Entry) :
    ((insert location entry entries).map Prod.fst).Nodup := by
  rw [has_eq_false_iff] at absent
  induction entries with
  | nil =>
      simp [insert]
  | cons placed entries inductionHypothesis =>
      obtain ⟨fresh, restDistinct⟩ := List.nodup_cons.mp distinct
      rw [insert_cons]
      split
      · rw [List.map_cons, List.nodup_cons]
        refine ⟨?_, distinct⟩
        intro taken
        obtain ⟨old, member, same⟩ := List.mem_map.mp taken
        exact absent old member same
      · rw [List.map_cons, List.nodup_cons]
        constructor
        · intro taken
          obtain ⟨old, member, same⟩ := List.mem_map.mp taken
          rcases mem_insert.mp member with rfl | listed
          · exact absent placed List.mem_cons_self same.symm
          · exact fresh (List.mem_map.mpr ⟨old, listed, same⟩)
        · exact inductionHypothesis restDistinct fun old member =>
            absent old (List.mem_cons_of_mem placed member)

@[simp]
theorem map_fst_map_replace (location : Location) (entry : Entry)
    (entries : Entries) :
    (entries.map (replace location entry)).map Prod.fst =
      entries.map Prod.fst := by
  rw [List.map_map]
  exact List.map_congr_left fun placed _ => replace_fst location entry placed

/-- An entry that is put where it can stand leaves a tree. -/
theorem IsTree.put (tree : entries.IsTree) (admits : entries.Admits location)
    (entry : Entry) : (entries.put location entry).IsTree where
  named := by
    intro placed member
    rcases mem_put member with here | old
    · rw [here]
      exact admits.named
    · exact tree.named placed old
  distinct := by
    rw [Entries.put]
    split
    · rw [map_fst_map_replace]
      exact tree.distinct
    · next absent =>
        exact nodup_map_insert tree.distinct (Bool.eq_false_iff.mpr absent) entry
  inDirectory := by
    -- No directory gives way, so all of them are where they were.
    have kept {directory : Location}
        (standing : entries.entry? directory = some .directory) :
        Entries.entry? (entries.put location entry) directory =
          some .directory := by
      have different : directory ≠ location := by
        rintro rfl
        exact admits.noDirectory standing
      rw [entry?_put_of_ne different, standing]
    intro placed member
    rcases mem_put member with here | old
    · rw [here]
      exact kept admits.inDirectory
    · exact kept (tree.inDirectory placed old)

end Entries

end Marginalia
