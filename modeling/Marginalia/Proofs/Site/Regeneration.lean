import Marginalia.Proofs.Site.Enumeration
import Marginalia.Proofs.Site.Replay

/-!
# Generating a site again

If neither of the input and the output directory is inside the other one, a run
changes no input file and adds none.  So a second run finds the same input files,
makes no directory and writes every file of the site as it is: it gives the same
report and leaves the file system as the first run left it.
-/

namespace Marginalia

open FileSystem (Grows Fills)

/-! ## Directories that are left alone -/

namespace FileSystem

variable {before middle after : FileSystem} {location place : Location}
  {path : Path}

/-- No file changes that is at a location or below it. -/
def Spares (location : Location) (before after : FileSystem) : Prop :=
  ∃ changed, Grows changed before after ∧
    ∀ place ∈ changed, ¬ location <+: place

theorem Spares.trans (first : Spares location before middle)
    (second : Spares location middle after) : Spares location before after := by
  obtain ⟨changed, grows, elsewhere⟩ := first
  obtain ⟨later, laterGrows, laterElsewhere⟩ := second
  refine ⟨changed ++ later, grows.trans laterGrows, ?_⟩
  intro place member
  rcases List.mem_append.mp member with earlier | last
  · exact elsewhere place earlier
  · exact laterElsewhere place last

theorem Spares.file_iff (spares : Spares location before after)
    (inside : location <+: place) (contents : Contents) :
    after.entry? place = some (.file contents) ↔
      before.entry? place = some (.file contents) := by
  obtain ⟨changed, grows, elsewhere⟩ := spares
  exact grows.unchanged place (fun member => elsewhere place member inside) contents

theorem Spares.readText (spares : Spares location before after) {text : Text}
    (inside : location <+: before.placeOf path)
    (read : before.readText path = .ok text) : after.readText path = .ok text := by
  obtain ⟨place, located, standing⟩ := readText_eq_ok_iff.mp read
  rw [placeOf_of_locate located] at inside
  have kept := (spares.file_iff inside _).mpr standing
  obtain ⟨changed, grows, _⟩ := spares
  exact readText_eq_ok_iff.mpr ⟨place, grows.locate located, kept⟩

/-- A location is not below one of two if it is below the other, unless one of
them is below the other. -/
theorem not_below_of_below {input output : Location}
    (inputApart : ¬ input <+: output) (outputApart : ¬ output <+: input)
    (below : output <+: place) : ¬ input <+: place := by
  intro inputBelow
  rcases List.prefix_or_prefix_of_prefix inputBelow below with inside | inside
  · exact inputApart inside
  · exact outputApart inside

end FileSystem

namespace InputFile

variable {before after : FileSystem} {directory : Path} {location : Location}
  {input : InputFile} {inputs : List InputFile}

theorem Precedes.asymm {first second : InputFile} (order : first.Precedes second) :
    ¬ second.Precedes first := by
  rintro (later | ⟨sameLater, later⟩)
  · rcases order with earlier | ⟨same, _⟩
    · exact List.lt_asymm earlier later
    · rw [same] at later
      exact List.lt_irrefl _ later
  · rcases order with earlier | ⟨_, earlier⟩
    · rw [sameLater] at earlier
      exact List.lt_irrefl _ earlier
    · exact List.lt_asymm earlier later

/-- The input files below a directory that is left alone are the same, even if
directories are made in it. -/
theorem below_of_spares
    (spares : FileSystem.Spares location before after) (directory : Path) :
    below after location directory = below before location directory := by
  have sameMembers :
      ∀ input, input ∈ below after location directory ↔
        input ∈ below before location directory := by
    intro input
    rw [mem_below_iff, mem_below_iff]
    refine exists_congr fun name => exists_congr fun contents =>
      and_congr_right fun _ => and_congr_right fun _ => and_congr_right fun _ => ?_
    have inside : location <+: location ++ [input.artifact] ++ [name] :=
      ⟨[input.artifact, name], by simp⟩
    rw [spares.file_iff inside]
    refine and_congr_left fun standing => ?_
    constructor
    · -- The file stood in a directory before.
      intro _
      exact FileSystem.isDirectory_of_standing standing
    · obtain ⟨_, grows, _⟩ := spares
      exact grows.directory _
  have inOrder := pairwise_below before location directory
  have laterInOrder := pairwise_below after location directory
  refine List.Perm.eq_of_pairwise ?_ laterInOrder inOrder
    ((List.perm_ext_iff_of_nodup (laterInOrder.imp Precedes.ne)
      (inOrder.imp Precedes.ne)).mpr sameMembers)
  intro first second _ _ order reversed
  exact absurd reversed order.asymm

theorem discover_of_spares
    (spares : FileSystem.Spares (before.placeOf directory) before after)
    (listed : discover before directory = .ok inputs) :
    discover after directory = .ok inputs := by
  by_cases standing : before.isDirectory directory = true
  · obtain ⟨location, located, isDirectory⟩ :=
      FileSystem.isDirectory_iff.mp standing
    rw [FileSystem.placeOf_of_locate located] at spares
    rw [discover_of_isDirectory located isDirectory] at listed
    obtain ⟨_, grows, _⟩ := id spares
    rw [discover_of_isDirectory (grows.locate located)
      (grows.directory location isDirectory),
      below_of_spares spares, listed]
  · rw [discover_of_not_directory (Bool.eq_false_iff.mpr standing)] at listed
    cases listed

theorem placeOf_of_mem_discover
    (listed : discover before directory = .ok inputs) (member : input ∈ inputs) :
    before.placeOf directory <+: before.placeOf input.path := by
  rw [discover] at listed
  split at listed
  · cases listed
    obtain ⟨artifact, visible, fileMember⟩ := List.mem_flatMap.mp member
    obtain ⟨name, nameVisible, rfl⟩ := List.mem_map.mp fileMember
    obtain ⟨_, childMember⟩ := exists_of_mem_visibleNames visible
    obtain ⟨_, fileChildMember⟩ := exists_of_mem_visibleNames nameVisible
    exact (FileSystem.placeOf_prefix_join
      (FileSystem.isName_of_mem_children childMember) before directory).trans
        (FileSystem.placeOf_prefix_join
          (FileSystem.isName_of_mem_children fileChildMember) before _)
  · cases listed

end InputFile

namespace Generator

open FileSystem (Spares)
open SiteFile (WritesAll places)
open Work (Rewrites)

variable {generator : Generator} {before after files : FileSystem}
  {snapshots : List Snapshot} {job : PageJob}

/-! ## Reading again -/

theorem exists_input_of_mem_jobs
    (read : generator.snapshotsOf before = .ok snapshots)
    (member : job ∈ (Catalog.ofSnapshots snapshots).jobs) :
    ∃ inputs input contents,
      InputFile.discover before generator.settings.input = .ok inputs ∧
      input ∈ inputs ∧ job.snapshot.docFile = input.path ∧
      before.readText job.snapshot.docFile = .ok contents := by
  obtain ⟨inputs, listed, inputsRead⟩ := snapshotsOf_eq_ok_iff.mp read
  obtain ⟨input, inputMember, inputRead⟩ :=
    exists_mem_of_map_eq_map_ok inputsRead
      (Catalog.snapshot_mem_of_mem_jobs member).1
  obtain ⟨_, contents, _, contentsRead, _⟩ := snapshotOf_eq_ok_iff.mp inputRead
  have origin := (origin_of_snapshotOf inputRead).2
  rw [← origin] at contentsRead
  exact ⟨inputs, input, contents, listed, inputMember, origin, contentsRead⟩

/-- The source of a page is inside the input directory. -/
theorem placeOf_docFile
    (read : generator.snapshotsOf before = .ok snapshots)
    (member : job ∈ (Catalog.ofSnapshots snapshots).jobs) :
    before.placeOf generator.settings.input <+:
      before.placeOf job.snapshot.docFile := by
  obtain ⟨_, input, _, listed, inputMember, origin, _⟩ :=
    exists_input_of_mem_jobs read member
  rw [origin]
  exact InputFile.placeOf_of_mem_discover listed inputMember

/-- What is not inside the input directory is not the source of a page. -/
theorem locate_ne_docFile {changed : List Location} {path : Path}
    (read : generator.snapshotsOf before = .ok snapshots)
    (member : job ∈ (Catalog.ofSnapshots snapshots).jobs)
    (grows : Grows changed before after)
    (elsewhere : ¬ before.placeOf generator.settings.input <+:
      before.placeOf path) :
    after.locate path ≠ after.locate job.snapshot.docFile := by
  intro same
  obtain ⟨_, _, _, _, _, _, contentsRead⟩ := exists_input_of_mem_jobs read member
  obtain ⟨place, located, _⟩ := FileSystem.readText_eq_ok_iff.mp contentsRead
  rw [grows.locate located] at same
  have samePlace : before.placeOf path = before.placeOf job.snapshot.docFile := by
    rw [← FileSystem.placeOf_congr grows.workingDirectory,
      FileSystem.placeOf_of_locate same, FileSystem.placeOf_of_locate located]
  apply elsewhere
  rw [samePlace]
  exact placeOf_docFile read member

/-- The same snapshots are read if the input directory is left alone. -/
theorem snapshotsOf_of_spares
    (spares : Spares (before.placeOf generator.settings.input) before after)
    (read : generator.snapshotsOf before = .ok snapshots) :
    generator.snapshotsOf after = .ok snapshots := by
  obtain ⟨inputs, listed, inputsRead⟩ := snapshotsOf_eq_ok_iff.mp read
  refine snapshotsOf_eq_ok_iff.mpr ⟨inputs,
    InputFile.discover_of_spares spares listed, ?_⟩
  rw [← inputsRead]
  apply List.map_congr_left
  intro input member
  have outcomeMember :
      snapshotOf generator.registry input before ∈ snapshots.map .ok := by
    rw [← inputsRead]
    exact List.mem_map.mpr ⟨input, member, rfl⟩
  obtain ⟨snapshot, _, inputRead⟩ := List.mem_map.mp outcomeMember
  obtain ⟨_, contents, _, contentsRead, _⟩ :=
    snapshotOf_eq_ok_iff.mp inputRead.symm
  have sameContents :=
    spares.readText
      (InputFile.placeOf_of_mem_discover listed member) contentsRead
  rw [snapshotOf, snapshotOf, sameContents, contentsRead]

theorem pageOf_of_spares
    (read : generator.snapshotsOf before = .ok snapshots)
    (member : job ∈ (Catalog.ofSnapshots snapshots).jobs)
    (spares : Spares (before.placeOf generator.settings.input) before after) :
    generator.pageOf job after = generator.pageOf job before := by
  obtain ⟨_, _, contents, _, _, _, contentsRead⟩ :=
    exists_input_of_mem_jobs read member
  exact pageOf_congr ((spares.readText (placeOf_docFile read member)
    contentsRead).trans contentsRead.symm)

/-! ## Writing again -/

/-- The files of the site are put below the output directory. -/
theorem placeOf_of_mem_sitePaths {settings : Settings} {catalog : Catalog}
    {path : Path} (stylesheetIsName : Path.IsName settings.stylesheet)
    (groupIsName : ∀ group ∈ catalog.groups, Path.IsName group.name)
    (artifactIsName : ∀ job ∈ catalog.jobs, Path.IsName job.snapshot.artifact)
    (member : path ∈ sitePaths settings catalog) :
    files.placeOf settings.output <+: files.placeOf path := by
  have below {name : Text} (isName : Path.IsName name) :
      files.placeOf settings.output <+:
        files.placeOf (settings.output.join ⟨name⟩) :=
    FileSystem.placeOf_prefix_join isName files settings.output
  have deeper {name other : Text} (isName : Path.IsName name)
      (otherIsName : Path.IsName other) :
      files.placeOf settings.output <+:
        files.placeOf ((settings.output.join ⟨name⟩).join ⟨other⟩) :=
    (below isName).trans (FileSystem.placeOf_prefix_join otherIsName files _)
  rw [sitePaths] at member
  simp only [List.mem_append, List.mem_map] at member
  rcases member with ((marker | whole) | ⟨group, groupMember, rfl⟩) |
    ⟨job, jobMember, rfl⟩
  · split at marker
    · rw [List.mem_singleton.mp marker]
      exact below (by decide +kernel)
    · cases marker
  · rcases List.mem_cons.mp whole with rfl | landing
    · exact below stylesheetIsName
    · rw [List.mem_singleton.mp landing]
      exact below isName_indexName
  · exact deeper (groupIsName group groupMember) isName_indexName
  · exact deeper (artifactIsName job jobMember) job.snapshot.isName_pageName

def pageFile (generator : Generator) (original : FileSystem) (job : PageJob) :
    SiteFile :=
  ⟨job.snapshot.destination generator.settings.output,
    (generator.pageOf job original).toOption.getD []⟩

theorem eq_map_pageFile {jobs : List PageJob} {pages : List SiteFile}
    (related : List.Forall₂ (fun job file =>
      file.path = job.snapshot.destination generator.settings.output ∧
      generator.pageOf job before = .ok file.text) jobs pages) :
    pages = jobs.map (generator.pageFile before) ∧
      ∀ job ∈ jobs, generator.pageOf job before =
        .ok (generator.pageFile before job).text := by
  induction related with
  | nil =>
      simp
  | @cons job file jobs pages here _ inductionHypothesis =>
      obtain ⟨pathEq, pageEq⟩ := here
      have fileEq : file = generator.pageFile before job := by
        rw [pageFile, ← pathEq, pageEq]
        rfl
      rw [List.map_cons, ← fileEq, ← inductionHypothesis.1]
      refine ⟨rfl, ?_⟩
      intro other member
      rcases List.mem_cons.mp member with rfl | later
      · rw [← fileEq]
        exact pageEq
      · exact inductionHypothesis.2 other later

theorem rewrites_writePage {site : List SiteFile} {location : Location}
    {contents : Contents} {text : Text}
    (member : ⟨job.snapshot.destination generator.settings.output, text⟩ ∈ site)
    (leads : after.Leads
      (job.snapshot.destination generator.settings.output) location)
    (standing : after.entry? location = some (.file contents))
    (samePage : ∀ files, Fills (places site after) after files →
      generator.pageOf job files = .ok text) :
    Rewrites site after (generator.writePage job)
      (job.snapshot.destination generator.settings.output)
      [⟨job.snapshot.destination generator.settings.output, text⟩] := by
  rw [writePage]
  refine ((reads_readPage generator job).rewrites samePage).skip ?_
  have written := Work.rewrites_writeText member leads standing
  exact written.bind ((Work.rewrites_note _ _).bind
    ((Work.reads_pure _).rewrites fun _ _ => rfl))

/-- Where the files of the site as a whole stand, they are written again. -/
theorem rewrites_writeSiteFiles {site : List SiteFile} {settings : Settings}
    {catalog : Catalog} (written : WritesAll site before after)
    (part : ∀ file ∈ siteFiles settings catalog, file ∈ site) :
    Rewrites site after (writeSiteFiles settings catalog) ()
      (siteFiles settings catalog) := by
  have again {file : SiteFile} (member : file ∈ siteFiles settings catalog) :
      Rewrites site after (Work.writeText file.path file.text) () [file] := by
    obtain ⟨location, contents, leads, standing⟩ :=
      written.exists_file file (part file member)
    exact Work.rewrites_writeText (part file member) leads standing
  have shared :=
    Work.rewrites_forM fun file (member : file ∈ sharedFiles settings catalog) =>
      again (List.mem_append_left _ member)
  rw [List.map_id'] at shared
  have indexes :
      Rewrites site after (catalog.groups.forM (writeArtifactIndex settings)) ()
        (catalog.groups.map (artifactIndex settings)) := by
    apply Work.rewrites_forM
    intro group member
    exact (again (artifactIndex_mem_siteFiles settings catalog member)).bind
      (Work.rewrites_note _ _)
  have outputStands :
      settings.output.text = [] ∨ after.isDirectory settings.output = true := by
    obtain ⟨_, leads⟩ :=
      written.exists_leads _ (part _ (landing_mem_siteFiles settings catalog))
    exact leads.isDirectory_base isName_indexName
  rw [writeSiteFiles, siteFiles]
  exact (Work.rewrites_makeDirectories outputStands).skip (shared.andThen indexes)

theorem rewrites_writeSite {catalog : Catalog} {site : List SiteFile}
    (siteEq : site = siteFiles generator.settings catalog ++
      catalog.jobs.map (generator.pageFile before))
    (written : WritesAll site before after)
    (samePages : ∀ job ∈ catalog.jobs, ∀ files,
      Fills (places site after) after files →
        generator.pageOf job files = .ok (generator.pageFile before job).text) :
    Rewrites site after (generator.writeSite catalog)
      ⟨catalog.artifactCount, catalog.jobs.map fun job =>
        job.snapshot.destination generator.settings.output⟩ site := by
  have siteWritten :
      Rewrites site after (writeSiteFiles generator.settings catalog) ()
        (siteFiles generator.settings catalog) := by
    apply rewrites_writeSiteFiles written
    intro file member
    rw [siteEq]
    exact List.mem_append_left _ member
  have pagesWritten :
      Rewrites site after (generator.writePages catalog)
        (catalog.jobs.map fun job =>
          job.snapshot.destination generator.settings.output)
        (catalog.jobs.map (generator.pageFile before)) := by
    refine (Work.rewrites_note _ _).skip (Work.rewrites_forEach _ ?_)
    intro job member
    have pageMember : generator.pageFile before job ∈ site := by
      rw [siteEq]
      exact List.mem_append_right _ (List.mem_map.mpr ⟨job, member, rfl⟩)
    obtain ⟨location, contents, leads, standing⟩ :=
      written.exists_file _ pageMember
    exact rewrites_writePage pageMember leads standing (samePages job member)
  have returned :
      Rewrites site after (generator.writeSite catalog)
        ⟨catalog.artifactCount, catalog.jobs.map fun job =>
          job.snapshot.destination generator.settings.output⟩
        (siteFiles generator.settings catalog ++
          (catalog.jobs.map (generator.pageFile before) ++ [])) :=
    siteWritten.andThen (pagesWritten.bind
      ((Work.reads_pure _).rewrites fun _ _ => rfl))
  rwa [List.append_nil, ← siteEq] at returned

/-! ## Two runs -/

/-- A run that succeeds has written a site of the snapshots that it read, and it
has left the input directory alone. -/
theorem exists_written_site {before after : Workspace} {report : SiteReport}
    (stylesheetIsName : Path.IsName generator.settings.stylesheet)
    (inputApart : ¬ before.files.placeOf generator.settings.input <+:
      before.files.placeOf generator.settings.output)
    (outputApart : ¬ before.files.placeOf generator.settings.output <+:
      before.files.placeOf generator.settings.input)
    (succeeded : generator.generate.run before = (.ok report, after)) :
    ∃ snapshots, generator.snapshotsOf before.files = .ok snapshots ∧
      let catalog := Catalog.ofSnapshots snapshots
      let site := siteFiles generator.settings catalog ++
        catalog.jobs.map (generator.pageFile before.files)
      report = ⟨catalog.artifactCount, catalog.jobs.map fun job =>
        job.snapshot.destination generator.settings.output⟩ ∧
      WritesAll site before.files after.files ∧
      (∀ job ∈ catalog.jobs, generator.pageOf job before.files =
        .ok (generator.pageFile before.files job).text) ∧
      ∀ place ∈ places site after.files,
        ¬ before.files.placeOf generator.settings.input <+: place := by
  obtain ⟨snapshots, _, read, published⟩ := exists_publish_of_generate succeeded
  obtain ⟨middle, wroteSite, wrotePages, counted⟩ :=
    exists_site_of_publish published
  have elsewhere {path : Path}
      (member : path ∈ sitePaths generator.settings
        (Catalog.ofSnapshots snapshots)) :
      ¬ before.files.placeOf generator.settings.input <+:
        before.files.placeOf path := by
    apply FileSystem.not_below_of_below inputApart outputApart
    apply placeOf_of_mem_sitePaths stylesheetIsName _ _ member
    · intro group groupMember
      exact isName_group read groupMember
    · intro job jobMember
      exact isName_job read jobMember
  obtain ⟨changed, laterGrows⟩ := exists_grows_of_runsEach wrotePages
  have grows := wroteSite.grows.trans laterGrows
  have samePlace (path : Path) :
      after.files.placeOf path = before.files.placeOf path :=
    FileSystem.placeOf_congr grows.workingDirectory path
  obtain ⟨pages, related, written⟩ :=
    writesAll_site wroteSite wrotePages
      (fun job member => by
        obtain ⟨_, _, contents, _, _, _, contentsRead⟩ :=
          exists_input_of_mem_jobs read member
        exact ⟨contents, contentsRead⟩)
      (fun job member path pathMember =>
        locate_ne_docFile read member grows (elsewhere pathMember))
  obtain ⟨pagesEq, pagesRead⟩ := eq_map_pageFile related
  rw [pagesEq] at written
  refine ⟨snapshots, read, ?_, written, pagesRead, ?_⟩
  · have pathsEq := pages_eq_of_runsEach wrotePages
    rw [← counted, ← pathsEq]
  · intro place member
    obtain ⟨file, fileMember, rfl⟩ := List.mem_map.mp member
    rw [samePlace]
    apply elsewhere
    rw [sitePaths_eq]
    rcases List.mem_append.mp fileMember with whole | page
    · exact List.mem_append_left _ (List.mem_map.mpr ⟨file, whole, rfl⟩)
    · obtain ⟨job, jobMember, rfl⟩ := List.mem_map.mp page
      exact List.mem_append_right _ (List.mem_map.mpr ⟨job, jobMember, rfl⟩)

/-- If neither of the input and the output directory is inside the other one, a
second run does not change what a run that succeeded has left, and it gives the
same report. -/
theorem generate_again (generator : Generator) (before after : Workspace)
    (report : SiteReport)
    (stylesheetIsName : Path.IsName generator.settings.stylesheet)
    (inputApart : ¬ before.files.placeOf generator.settings.input <+:
      before.files.placeOf generator.settings.output)
    (outputApart : ¬ before.files.placeOf generator.settings.output <+:
      before.files.placeOf generator.settings.input)
    (succeeded : generator.generate.run before = (.ok report, after)) (log : Log) :
    ∃ later, generator.generate.run ⟨after.files, log⟩ =
      (.ok report, ⟨after.files, later⟩) := by
  obtain ⟨snapshots, read, reportEq, written, pagesRead, elsewhere⟩ :=
    exists_written_site stylesheetIsName inputApart outputApart succeeded
  have spares :
      FileSystem.Spares (before.files.placeOf generator.settings.input)
        before.files after.files :=
    ⟨_, written.grows, elsewhere⟩
  have readAgain := snapshotsOf_of_spares spares read
  have rewrites := rewrites_writeSite rfl written (fun job member files fills => by
    have stillSpares := spares.trans ⟨_, fills.toGrows, elsewhere⟩
    rw [pageOf_of_spares read member stillSpares]
    exact pagesRead job member)
  obtain ⟨_, wrote⟩ := rewrites after.files (Fills.refl _ _)
  rw [written.foldl_put_eq (.refl _ _), ← reportEq] at wrote
  have published :
      (generator.publish snapshots).Succeeds after.files report after.files := by
    rw [publish]
    exact ((reads_announce generator _).succeeds rfl).bind wrote
  rw [generate]
  exact ((reads_readInputs generator).succeeds readAgain).bind published log

/-- Two pages share a destination, and the way to the output directory leads
through a directory that the first run makes among the artifacts. -/
theorem generate_again_shared_page :
    let header := "# Commit: 1\n# CommitDate: Jan 2 2020\n# SourceFile: x\n" ++
      "# SourceLink: l\n# DocAuthor: Ada\n"
    let files : FileSystem :=
      { entries :=
          [(["in"], .directory), (["in", "a"], .directory),
            (["in", "a", "x.py"], .file (.text (header ++ "x = 1\n"))),
            (["in", "a", "x.sh"], .file (.text (header ++ "echo\n")))] }
    let generator : Generator :=
      { settings := { input := "in", output := "in/new/../../out" }
        highlighter := fun _ code => .ok (Highlight.renderSpans code [])
        markdown := Markdown.toHtml }
    let page : Path := "in/new/../../out/a/x.html"
    Path.IsName generator.settings.stylesheet ∧
    files.placeOf "in" = ["in"] ∧ files.placeOf "in/new/../../out" = ["out"] ∧
    ∃ after later,
      generator.generate.run ⟨files, []⟩ = (.ok ⟨1, [page, page]⟩, after) ∧
      generator.generate.run ⟨after.files, []⟩ =
        (.ok ⟨1, [page, page]⟩, ⟨after.files, later⟩) := by
  intro header files generator page
  have stylesheetIsName : Path.IsName generator.settings.stylesheet := by
    decide +kernel
  have inputPlace : files.placeOf "in" = ["in"] := by
    decide +kernel
  have outputPlace : files.placeOf "in/new/../../out" = ["out"] := by
    decide +kernel
  let snapshot (path : Path) : Snapshot :=
    ⟨"a", "1", ⟨2020, 1, 2⟩, "Jan 2 2020", "x", "l", "Ada", path, 5⟩
  let catalog : Catalog := ⟨[⟨"a", [snapshot "in/a/x.py", snapshot "in/a/x.sh"]⟩]⟩
  have listed (first second : Text) :
      InputFile.discover
          { entries :=
              [(["in"], .directory), (["in", "a"], .directory),
                (["in", "a", "x.py"], .file (.text first)),
                (["in", "a", "x.sh"], .file (.text second))] } "in" =
        .ok [⟨"a", "in/a/x.py"⟩, ⟨"a", "in/a/x.sh"⟩] := by
    change Except.ok (InputFile.below _ ["in"] "in") = _
    cbv
  have catalogEq :
      Catalog.ofSnapshots [snapshot "in/a/x.py", snapshot "in/a/x.sh"] = catalog := by
    dsimp only [catalog, snapshot]
    cbv
  -- The sorted lists do not evaluate, so the run is taken stage by stage.
  obtain ⟨_, generated⟩ :=
    @run_generate_of_stages generator files _
      [snapshot "in/a/x.py", snapshot "in/a/x.sh"] catalog (listed _ _)
      (by decide +kernel) catalogEq []
  have outcomeEq :
      (generator.generate.run ⟨files, []⟩).1 = .ok ⟨1, [page, page]⟩ := by
    rw [generated]
    exact eq_ok_of_toOption (by decide +kernel)
  have succeeded :
      generator.generate.run ⟨files, []⟩ =
        (.ok ⟨1, [page, page]⟩, (generator.generate.run ⟨files, []⟩).2) :=
    Work.run_of_outcome outcomeEq
  have inputApart :
      ¬ files.placeOf generator.settings.input <+:
        files.placeOf generator.settings.output := by
    rw [inputPlace, outputPlace]
    decide
  have outputApart :
      ¬ files.placeOf generator.settings.output <+:
        files.placeOf generator.settings.input := by
    rw [inputPlace, outputPlace]
    decide
  obtain ⟨later, ranAgain⟩ :=
    generate_again generator ⟨files, []⟩ _ _ stylesheetIsName inputApart
      outputApart succeeded []
  exact ⟨stylesheetIsName, inputPlace, outputPlace, _, later, succeeded,
    ranAgain⟩

end Generator

end Marginalia
