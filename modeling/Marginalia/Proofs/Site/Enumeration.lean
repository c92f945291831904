import Marginalia.Proofs.Catalog.Grouping
import Marginalia.Proofs.Catalog.Ordering
import Marginalia.Proofs.FileSystem.Listing
import Marginalia.Proofs.Site.Naming
import Marginalia.Proofs.Site.Validation
import Marginalia.Proofs.Text.ByteOrder

/-!
# The order of input files

The input files are the files two names below the input directory, without the
hidden ones.  They come in the order of their artifacts and names, whatever order
the directories list their entries in, and the snapshots of one date follow this
order.
-/

namespace Marginalia

/-- The last name of a path, or nothing if it ends in no name. -/
def Path.lastName (path : Path) : Text :=
  path.fileName?.getD []

theorem Path.lastName_join {name : Text} (isName : IsName name) (base : Path) :
    (base.join ⟨name⟩).lastName = name := by
  rw [lastName, fileName?_eq isName.nonempty isName.notHere
    (splitAtEach_join isName.noSlash base), if_neg isName.notAbove,
    Option.getD_some]

namespace InputFile

variable {files other : FileSystem} {directory : Path} {location : Location}
  {input : InputFile}

/-- An input file stands two names below a directory, and neither name is
hidden. -/
def StandsBelow (files : FileSystem) (directory : Path) (input : InputFile) :
    Prop :=
  ∃ name contents,
    Path.IsName input.artifact ∧ Path.IsName name ∧
    input.artifact.head? ≠ some '.' ∧ name.head? ≠ some '.' ∧
    input.path = (directory.join ⟨input.artifact⟩).join ⟨name⟩ ∧
    files.find input.path = .ok (.file contents)

/-- The order of input files: by artifact, then by name, both byte by byte. -/
def Precedes (first second : InputFile) : Prop :=
  first.artifact.bytes < second.artifact.bytes ∨
    first.artifact = second.artifact ∧
      first.path.lastName.bytes < second.path.lastName.bytes

theorem Precedes.ne {first second : InputFile} (precedes : first.Precedes second) :
    first ≠ second := by
  rintro rfl
  rcases precedes with before | ⟨_, before⟩
  · exact List.lt_irrefl _ before
  · exact List.lt_irrefl _ before

/-! ## Visible names -/

theorem mem_visibleNames_iff {entries : List (Text × Entry)}
    {test : Entry → Bool} {name : Text} :
    name ∈ visibleNames entries test ↔
      name.head? ≠ some '.' ∧
        ∃ entry, (name, entry) ∈ entries ∧ test entry = true := by
  rw [visibleNames, List.mem_mergeSort, List.mem_map]
  constructor
  · rintro ⟨⟨_, entry⟩, visible, rfl⟩
    obtain ⟨member, shown⟩ := List.mem_filter.mp visible
    simp only [isHidden, Bool.and_eq_true, Bool.not_eq_true',
      decide_eq_false_iff_not] at shown
    exact ⟨shown.1, entry, member, shown.2⟩
  · rintro ⟨notHidden, entry, member, passes⟩
    refine ⟨(name, entry), List.mem_filter.mpr ⟨member, ?_⟩, rfl⟩
    simp [isHidden, notHidden, passes]

theorem visibleNames_perm {entries others : List (Text × Entry)}
    (order : entries.Perm others) (test : Entry → Bool) :
    visibleNames entries test = visibleNames others test :=
  Text.mergeSort_congr ((order.filter _).map Prod.fst)

theorem pairwise_visibleNames {entries : List (Text × Entry)}
    (distinct : (entries.map Prod.fst).Nodup) (test : Entry → Bool) :
    (visibleNames entries test).Pairwise (· < ·) :=
  Text.pairwise_lt_mergeSort (distinct.sublist (List.filter_sublist.map Prod.fst))

/-! ## Files below a directory -/

theorem mem_below_iff :
    input ∈ below files location directory ↔
      ∃ name contents,
        input.artifact.head? ≠ some '.' ∧ name.head? ≠ some '.' ∧
        input.path = (directory.join ⟨input.artifact⟩).join ⟨name⟩ ∧
        files.entry? (location ++ [input.artifact]) = some .directory ∧
        files.entry? (location ++ [input.artifact] ++ [name]) =
          some (.file contents) := by
  simp only [below, List.mem_flatMap, List.mem_map, mem_visibleNames_iff,
    FileSystem.mem_children_iff]
  constructor
  · rintro ⟨artifact, ⟨artifactShown, entry, standing, isDirectory⟩, name,
      ⟨nameShown, file, fileStanding, isFile⟩, rfl⟩
    cases entry with
    | file contents =>
        cases isDirectory
    | directory =>
        cases file with
        | directory =>
            cases isFile
        | file contents =>
            exact ⟨name, contents, artifactShown, nameShown, rfl, standing,
              fileStanding⟩
  · rintro ⟨name, contents, artifactShown, nameShown, pathEq, standing, fileStanding⟩
    refine ⟨input.artifact, ⟨artifactShown, _, standing, rfl⟩, name,
      ⟨nameShown, _, fileStanding, rfl⟩, ?_⟩
    rw [← pathEq]

/-- A file two names below a directory is found exactly if the first name is that
of a directory and the file stands in it. -/
theorem find_join_join_iff {artifact name : Text} {contents : Contents}
    (artifactIsName : Path.IsName artifact) (isName : Path.IsName name)
    (located : files.locate directory = .ok location)
    (isDirectory : files.entry? location = some .directory) :
    files.find ((directory.join ⟨artifact⟩).join ⟨name⟩) = .ok (.file contents) ↔
      files.entry? (location ++ [artifact]) = some .directory ∧
      files.entry? (location ++ [artifact] ++ [name]) = some (.file contents) := by
  have artifactLocated :=
    FileSystem.locate_join_name artifactIsName located isDirectory
  rw [FileSystem.find_eq_ok_iff,
    FileSystem.locate_join_eq_enter isName artifactLocated]
  simp only [FileSystem.enter_isName isName]
  constructor
  · rintro ⟨_, ⟨standing, rfl⟩, fileStanding⟩
    exact ⟨standing, fileStanding⟩
  · rintro ⟨standing, fileStanding⟩
    exact ⟨_, ⟨standing, rfl⟩, fileStanding⟩

theorem mem_below_iff_standsBelow
    (located : files.locate directory = .ok location)
    (isDirectory : files.entry? location = some .directory) :
    input ∈ below files location directory ↔
      input.StandsBelow files directory := by
  rw [mem_below_iff, StandsBelow]
  refine exists_congr fun name => exists_congr fun contents => ?_
  constructor
  · rintro ⟨artifactShown, nameShown, pathEq, standing, fileStanding⟩
    have artifactIsName : Path.IsName input.artifact :=
      FileSystem.isName_of_standing standing _ (by simp)
    have isName : Path.IsName name :=
      FileSystem.isName_of_standing fileStanding _ (by simp)
    refine ⟨artifactIsName, isName, artifactShown, nameShown, pathEq, ?_⟩
    rw [pathEq, find_join_join_iff artifactIsName isName located isDirectory]
    exact ⟨standing, fileStanding⟩
  · rintro ⟨artifactIsName, isName, artifactShown, nameShown, pathEq, found⟩
    rw [pathEq, find_join_join_iff artifactIsName isName located isDirectory] at found
    exact ⟨artifactShown, nameShown, pathEq, found⟩

theorem pairwise_below (files : FileSystem) (location : Location)
    (directory : Path) :
    (below files location directory).Pairwise Precedes := by
  have isName {place : Location} {test : Entry → Bool} {name : Text}
      (visible : name ∈ visibleNames (files.children place) test) :
      Path.IsName name := by
    obtain ⟨entry, member⟩ := exists_of_mem_visibleNames visible
    exact FileSystem.isName_of_mem_children member
  rw [below, List.pairwise_flatMap]
  constructor
  · intro artifact _
    rw [List.pairwise_map]
    refine (pairwise_visibleNames (files.nodup_children _) _).imp_of_mem
      fun {name next} member nextMember before => Or.inr ⟨rfl, ?_⟩
    dsimp only
    rw [Path.lastName_join (isName member), Path.lastName_join (isName nextMember)]
    exact Text.bytes_lt_iff.mpr before
  · refine (pairwise_visibleNames (files.nodup_children _) _).imp
      fun {artifact next} before first firstMember second secondMember => ?_
    obtain ⟨_, _, rfl⟩ := List.mem_map.mp firstMember
    obtain ⟨_, _, rfl⟩ := List.mem_map.mp secondMember
    exact Or.inl (Text.bytes_lt_iff.mpr before)

/-! ## Other orders of the directories -/

theorem below_of_reorders (reorders : files.Reorders other) (location : Location)
    (directory : Path) :
    below other location directory = below files location directory := by
  rw [below, below, visibleNames_perm (reorders.children_perm location)]
  refine List.flatMap_congr fun artifact _ => ?_
  dsimp only
  rw [visibleNames_perm (reorders.children_perm _)]

theorem discover_of_reorders (reorders : files.Reorders other)
    (directory : Path) :
    discover other directory = discover files directory := by
  simp only [discover, reorders.locate_eq, reorders.entry?_eq,
    below_of_reorders reorders]

theorem discover_of_isDirectory (located : files.locate directory = .ok location)
    (isDirectory : files.entry? location = some .directory) :
    discover files directory = .ok (below files location directory) := by
  simp [discover, located, isDirectory, Except.toOption, Option.filter]

end InputFile

/-! ## Snapshots in order -/

namespace Snapshot

/-- The input file that a snapshot was read from. -/
def origin (snapshot : Snapshot) : InputFile :=
  ⟨snapshot.artifact, snapshot.docFile⟩

/-- The order of the snapshots of an artifact: the newest first, and those of one
date by file name, byte by byte. -/
def Precedes (first second : Snapshot) : Prop :=
  second.date.Before first.date ∨
    first.date = second.date ∧
      first.docFile.lastName.bytes < second.docFile.lastName.bytes

end Snapshot

theorem Generator.map_origin_eq {registry : Registry} {files : FileSystem}
    {inputs : List InputFile} {snapshots : List Snapshot}
    (read : inputs.map (fun input => snapshotOf registry input files) =
      snapshots.map .ok) :
    snapshots.map Snapshot.origin = inputs := by
  induction inputs generalizing snapshots with
  | nil =>
      rw [List.map_nil, eq_comm, List.map_eq_nil_iff] at read
      rw [read, List.map_nil]
  | cons input inputs inductionHypothesis =>
      cases snapshots with
      | nil =>
          cases read
      | cons snapshot snapshots =>
          rw [List.map_cons, List.map_cons, List.cons.injEq] at read
          have origin := origin_of_snapshotOf read.1
          rw [List.map_cons, inductionHypothesis read.2, Snapshot.origin, origin.1,
            origin.2]

theorem Catalog.pairwise_group {snapshots : List Snapshot} {group : Group}
    (inOrder : (snapshots.map Snapshot.origin).Pairwise InputFile.Precedes)
    (member : group ∈ (ofSnapshots snapshots).groups) :
    group.snapshots.Pairwise Snapshot.Precedes := by
  obtain ⟨name, _, rfl⟩ := List.mem_map.mp member
  rw [List.pairwise_map] at inOrder
  -- Within one artifact the files differ in their names only.
  have byName :
      (snapshots.filter fun snapshot => snapshot.artifact == name).Pairwise
        fun first second =>
          first.docFile.lastName.bytes < second.docFile.lastName.bytes := by
    refine (inOrder.filter _).imp_of_mem fun {first second} given next order => ?_
    have artifactEq : first.artifact = name := by
      simpa using (List.mem_filter.mp given).2
    have nextEq : second.artifact = name := by
      simpa using (List.mem_filter.mp next).2
    rcases order with before | ⟨_, before⟩
    · have apart : first.artifact.bytes < second.artifact.bytes := before
      rw [artifactEq, nextEq] at apart
      exact absurd apart (List.lt_irrefl _)
    · exact before
  exact Group.pairwise_ofSnapshots byName name

namespace Generator

theorem readHeaders_of_reorders {files other : FileSystem}
    (reorders : files.Reorders other)
    (generator : Generator) (inputs : List InputFile) (log : Log) :
    ((generator.readHeaders inputs).run ⟨other, log⟩).1 =
      ((generator.readHeaders inputs).run ⟨files, log⟩).1 := by
  have reads :=
    FailurePolicy.reads_forEach (reads_readSnapshot generator.registry)
      generator.settings.policy inputs
  obtain ⟨_, ran⟩ := reads ⟨files, log⟩
  obtain ⟨_, otherRan⟩ := reads ⟨other, log⟩
  rw [readHeaders, ran, otherRan]
  simp only [snapshotOf, reorders.readText_eq]

theorem map_origin_of_readHeaders {generator : Generator}
    {inputs : List InputFile} {snapshots : List Snapshot}
    {before after : Workspace}
    (read : (generator.readHeaders inputs).run before = (.ok snapshots, after)) :
    snapshots.map Snapshot.origin = inputs := by
  obtain ⟨_, ran⟩ :=
    FailurePolicy.reads_forEach (reads_readSnapshot generator.registry)
      generator.settings.policy inputs before
  rw [readHeaders, ran, Prod.mk.injEq] at read
  exact map_origin_eq (FailurePolicy.settle_eq_ok_iff.mp read.1)

/-- The files listed are those two names below the input directory that are not
hidden, each once and in the order of their artifacts and names.  The snapshots
read from them are grouped by artifact, each in a group, the newest first and
those of one date in the order of their file names.  None of this depends on the
order in which directories list their entries. -/
theorem discover_in_any_order {files : FileSystem} {directory : Path}
    (isDirectory : files.isDirectory directory = true) :
    ∃ inputs,
      InputFile.discover files directory = .ok inputs ∧
      (∀ input, input ∈ inputs ↔ input.StandsBelow files directory) ∧
      inputs.Nodup ∧
      inputs.Pairwise InputFile.Precedes ∧
      (∀ (generator : Generator) (log : Log) (snapshots : List Snapshot)
          (after : Workspace),
        (generator.readHeaders inputs).run ⟨files, log⟩ = (.ok snapshots, after) →
        snapshots.map Snapshot.origin = inputs ∧
        (∀ snapshot ∈ snapshots,
          ∃ group ∈ (Catalog.ofSnapshots snapshots).groups,
            group.name = snapshot.artifact) ∧
        ∀ group ∈ (Catalog.ofSnapshots snapshots).groups,
          (∀ snapshot, snapshot ∈ group.snapshots ↔
            snapshot ∈ snapshots ∧ snapshot.artifact = group.name) ∧
          group.snapshots.Pairwise Snapshot.Precedes) ∧
      ∀ (entries : Entries) (order : entries.Perm files.entries),
        let other := files.reordered entries order
        InputFile.discover other directory = .ok inputs ∧
        ∀ (generator : Generator) (log : Log),
          ((generator.readHeaders inputs).run ⟨other, log⟩).1 =
            ((generator.readHeaders inputs).run ⟨files, log⟩).1 := by
  obtain ⟨location, located, standing⟩ := FileSystem.isDirectory_iff.mp isDirectory
  have listed := InputFile.discover_of_isDirectory located standing
  have inOrder := InputFile.pairwise_below files location directory
  refine ⟨_, listed, fun input => ?_, ?_, inOrder, ?_, ?_⟩
  · exact InputFile.mem_below_iff_standsBelow located standing
  · exact inOrder.imp InputFile.Precedes.ne
  · intro generator log snapshots after read
    have origins := map_origin_of_readHeaders read
    refine ⟨origins, fun snapshot member => Catalog.exists_group member,
      fun group member => ⟨fun snapshot => ?_, ?_⟩⟩
    · exact Catalog.mem_group_iff member
    · rw [← origins] at inOrder
      exact Catalog.pairwise_group inOrder member
  · intro entries order
    have reorders := files.reorders_reordered order
    refine ⟨?_, fun generator log => ?_⟩
    · rw [InputFile.discover_of_reorders reorders, listed]
    · exact readHeaders_of_reorders reorders generator _ log

/-- Two files of one date, listed in the wrong order among hidden entries, files at
the top and files further down.  Their group has both of them, in order. -/
theorem discover_in_any_order_hidden :
    let header := "# Commit: 1\n# CommitDate: Jan 2 2020\n# SourceFile: x.py\n" ++
      "# SourceLink: l\n# DocAuthor: Ada\n"
    let file : Entry := .file (.text header)
    let files : FileSystem :=
      { entries :=
          [(["in", "b", "x.py"], file), (["in", "a", "z.py"], file),
            (["in", "b"], .directory), (["in", "a", ".z.py"], file),
            (["in", "a", "deep", "x.py"], file), (["in", "a", "Z.py"], file),
            (["in", "a", "deep"], .directory), (["in", "top.py"], file),
            (["in", ".c", "x.py"], file), (["in", ".c"], .directory),
            (["in", "a"], .directory), (["in"], .directory)] }
    let inputs : List InputFile :=
      [⟨"a", "in/a/Z.py"⟩, ⟨"a", "in/a/z.py"⟩, ⟨"b", "in/b/x.py"⟩]
    let generator : Generator :=
      { highlighter := fun _ code => .ok code, markdown := Markdown.toHtml }
    let snapshot (artifact : Text) (path : Path) : Snapshot :=
      ⟨artifact, "1", ⟨2020, 1, 2⟩, "Jan 2 2020", "x.py", "l", "Ada", path, 5⟩
    InputFile.discover files "in" = .ok inputs ∧
    InputFile.discover
        (files.reordered files.entries.reverse files.entries.reverse_perm) "in" =
      .ok inputs ∧
    ∃ after,
      (generator.readHeaders inputs).run ⟨files, []⟩ =
        (.ok [snapshot "a" "in/a/Z.py", snapshot "a" "in/a/z.py",
          snapshot "b" "in/b/x.py"], after) ∧
      ∃ group ∈ (Catalog.ofSnapshots [snapshot "a" "in/a/Z.py",
          snapshot "a" "in/a/z.py", snapshot "b" "in/b/x.py"]).groups,
        group.name = "a" ∧
        group.snapshots = [snapshot "a" "in/a/Z.py", snapshot "a" "in/a/z.py"] ∧
        group.snapshots.Pairwise Snapshot.Precedes := by
  intro header file files inputs generator snapshot
  obtain ⟨listing, listed, _, _, _, grouped, anyOrder⟩ :=
    @discover_in_any_order files "in" (by decide +kernel)
  have listedSo : InputFile.discover files "in" = .ok inputs := by
    change Except.ok (InputFile.below files ["in"] "in") = _
    cbv
  rw [listedSo] at listed
  cases listed
  have outcomeEq :
      ((generator.readHeaders inputs).run ⟨files, []⟩).1 =
        .ok [snapshot "a" "in/a/Z.py", snapshot "a" "in/a/z.py",
          snapshot "b" "in/b/x.py"] :=
    eq_ok_of_toOption (by decide +kernel)
  have read :
      (generator.readHeaders inputs).run ⟨files, []⟩ =
        (.ok [snapshot "a" "in/a/Z.py", snapshot "a" "in/a/z.py",
          snapshot "b" "in/b/x.py"],
          ((generator.readHeaders inputs).run ⟨files, []⟩).2) :=
    Work.run_of_outcome outcomeEq
  obtain ⟨_, hasGroup, inGroups⟩ := grouped generator [] _ _ read
  obtain ⟨group, member, named⟩ :=
    hasGroup (snapshot "a" "in/a/Z.py") List.mem_cons_self
  refine ⟨listedSo, (anyOrder _ files.entries.reverse_perm).1, _, read, group, member, named, ?_,
    (inGroups group member).2⟩
  have catalogEq :
      Catalog.ofSnapshots [snapshot "a" "in/a/Z.py", snapshot "a" "in/a/z.py",
          snapshot "b" "in/b/x.py"] =
        ⟨[⟨"a", [snapshot "a" "in/a/Z.py", snapshot "a" "in/a/z.py"]⟩,
          ⟨"b", [snapshot "b" "in/b/x.py"]⟩]⟩ := by
    dsimp only [snapshot]
    cbv
  rw [catalogEq] at member
  rcases List.mem_cons.mp member with rfl | other
  · rfl
  · rw [List.mem_singleton.mp other] at named
    exact absurd named (by decide)

end Generator

end Marginalia
