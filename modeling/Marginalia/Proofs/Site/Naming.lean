import Marginalia.Proofs.Catalog.Grouping
import Marginalia.Proofs.FileSystem.Listing
import Marginalia.Proofs.Path.Extension
import Marginalia.Proofs.Site.Validation

/-!
# Names of artifacts and pages

An artifact has the name of a directory entry, and so has a page.  The name of a
page ends in an extension that no known language has, so that it is never that of
an annotated file.
-/

namespace Marginalia

/-! ## Names of pages -/

namespace Snapshot

theorem isName_pageName (snapshot : Snapshot) :
    Path.IsName snapshot.pageName where
  nonempty := by simp [pageName]
  noSlash := by
    rw [pageName, List.mem_append, not_or]
    refine ⟨?_, by decide⟩
    rw [Path.fileStem?]
    cases named : snapshot.docFile.fileName? with
    | none =>
        simp
    | some name =>
        exact fun slash =>
          Path.noSlash_of_fileName? named (Path.mem_of_mem_stem slash)
  notHere same := by simpa [pageName] using congrArg List.length same
  notAbove same := by simpa [pageName] using congrArg List.length same

theorem extension_pageName (snapshot : Snapshot) :
    (Path.splitFileName snapshot.pageName).2 =
      if snapshot.docFile.fileStem?.getD [] = [] then none
      else some "html".toList :=
  Path.extension_append (by decide) _

end Snapshot

/-- If pages are no files of a language, the file of a language has another
name than a page. -/
theorem Registry.exists_name_ne_pageName {registry : Registry} {path : Path}
    {language : Language} (noPages : registry.ofExtension? "html" = none)
    (known : registry.ofPath? path = some language) :
    ∃ name, path.fileName? = some name ∧
      ∀ snapshot : Snapshot, name ≠ snapshot.pageName := by
  rw [ofPath?, Path.extension?] at known
  cases named : path.fileName? with
  | none =>
      rw [named] at known
      cases known
  | some name =>
      refine ⟨name, rfl, ?_⟩
      rintro snapshot rfl
      rw [named, Option.bind_some, Snapshot.extension_pageName] at known
      split at known
      · cases known
      · rw [Option.bind_some, noPages] at known
        cases known

theorem InputFile.exists_of_mem_visibleNames {entries : List (Text × Entry)}
    {test : Entry → Bool} {name : Text}
    (member : name ∈ visibleNames entries test) :
    ∃ entry, (name, entry) ∈ entries := by
  rw [visibleNames, List.mem_mergeSort, List.mem_map] at member
  obtain ⟨⟨_, entry⟩, visible, rfl⟩ := member
  exact ⟨entry, (List.mem_filter.mp visible).1⟩

/-- Artifacts are named as the entries of the input directory are. -/
theorem InputFile.isName_artifact {files : FileSystem} {directory : Path}
    {inputs : List InputFile} {input : InputFile}
    (listed : discover files directory = .ok inputs) (member : input ∈ inputs) :
    Path.IsName input.artifact := by
  rw [discover] at listed
  split at listed
  · next location _ =>
      cases listed
      obtain ⟨artifact, visible, fileMember⟩ := List.mem_flatMap.mp member
      obtain ⟨name, _, rfl⟩ := List.mem_map.mp fileMember
      obtain ⟨entry, childMember⟩ := exists_of_mem_visibleNames visible
      exact FileSystem.isName_of_mem_children childMember
  · cases listed

theorem Generator.isName_of_mem_snapshots {generator : Generator}
    {files : FileSystem} {snapshots : List Snapshot} {snapshot : Snapshot}
    (read : generator.snapshotsOf files = .ok snapshots)
    (member : snapshot ∈ snapshots) : Path.IsName snapshot.artifact := by
  obtain ⟨inputs, listed, inputsRead⟩ := snapshotsOf_eq_ok_iff.mp read
  obtain ⟨input, inputMember, inputRead⟩ :=
    exists_mem_of_map_eq_map_ok inputsRead member
  rw [(origin_of_snapshotOf inputRead).1]
  exact InputFile.isName_artifact listed inputMember

theorem Generator.isName_group {generator : Generator} {original : FileSystem}
    {snapshots : List Snapshot} {group : Group}
    (read : generator.snapshotsOf original = .ok snapshots)
    (member : group ∈ (Catalog.ofSnapshots snapshots).groups) :
    Path.IsName group.name := by
  obtain ⟨name, named, rfl⟩ := List.mem_map.mp member
  obtain ⟨snapshot, snapshotMember, rfl⟩ := Catalog.mem_artifactNames_iff.mp named
  exact isName_of_mem_snapshots read snapshotMember

theorem Generator.isName_job {generator : Generator} {original : FileSystem}
    {snapshots : List Snapshot} {job : PageJob}
    (read : generator.snapshotsOf original = .ok snapshots)
    (member : job ∈ (Catalog.ofSnapshots snapshots).jobs) :
    Path.IsName job.snapshot.artifact :=
  isName_of_mem_snapshots read
    (Catalog.snapshot_mem_of_mem_jobs member).1

theorem isName_indexName : Path.IsName "index.html".toList := by
  decide +kernel

theorem Registry.ofExtension?_builtin_html :
    builtin.ofExtension? "html" = none := by
  decide +kernel

end Marginalia
