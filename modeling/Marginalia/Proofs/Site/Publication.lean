import Marginalia.Highlight.Span
import Marginalia.Proofs.Catalog.Grouping
import Marginalia.Proofs.Site.Validation

/-!
# What a run writes

A run that succeeds has written the files of the site as a whole, the index of
each artifact and the page of each snapshot.  If these files stand at different
places, and none of them is an input file, then each of them holds its text
after the run, and no other file has changed.
-/

namespace Marginalia

open FileSystem (Grows)

namespace SiteFile

variable {file : SiteFile} {files others : List SiteFile}
  {before middle after : FileSystem}

/-! ## Written files -/

/-- The file is written: it stands where its path leads, and nothing else
changes. -/
def Writes (file : SiteFile) (before after : FileSystem) : Prop :=
  ∃ location, after.Leads file.path location ∧
    after.entry? location = some (.file (.text file.text)) ∧
    Grows [location] before after

/-- The files are written one after the other.  Directories may be made in
between. -/
inductive WritesAll : List SiteFile → FileSystem → FileSystem → Prop
  | nil {before after : FileSystem} : Grows [] before after →
      WritesAll [] before after
  | cons {file : SiteFile} {files : List SiteFile}
      {before middle after : FileSystem} : file.Writes before middle →
      WritesAll files middle after → WritesAll (file :: files) before after

namespace WritesAll

theorem grow_first (grows : Grows [] before middle)
    (written : WritesAll files middle after) : WritesAll files before after := by
  cases written with
  | nil later =>
      exact .nil (grows.trans later)
  | cons first rest =>
      obtain ⟨location, leads, standing, changes⟩ := first
      exact .cons ⟨location, leads, standing, grows.trans changes⟩ rest

theorem append (first : WritesAll files before middle)
    (second : WritesAll others middle after) :
    WritesAll (files ++ others) before after := by
  induction first with
  | nil grows =>
      exact second.grow_first grows
  | cons written _ inductionHypothesis =>
      exact .cons written (inductionHypothesis second)

/-- In the end every path names a place, and only these places have changed. -/
theorem exists_locations (written : WritesAll files before after) :
    ∃ locations,
      files.map (fun file => after.locate file.path) = locations.map .ok ∧
      Grows locations before after := by
  induction written with
  | nil grows =>
      exact ⟨[], rfl, grows⟩
  | cons first rest inductionHypothesis =>
      obtain ⟨location, leads, _, changes⟩ := first
      obtain ⟨locations, restLocated, restChanges⟩ := inductionHypothesis
      refine ⟨location :: locations, ?_, changes.trans restChanges⟩
      rw [List.map_cons, restLocated, (leads.grow restChanges).locate,
        List.map_cons]

/-- In the end every path leads to a file. -/
theorem exists_file (written : WritesAll files before after) :
    ∀ file ∈ files, ∃ location contents, after.Leads file.path location ∧
      after.entry? location = some (.file contents) := by
  induction written with
  | nil _ =>
      simp
  | cons first rest inductionHypothesis =>
      intro file member
      rcases List.mem_cons.mp member with rfl | later
      · obtain ⟨location, leads, standing, _⟩ := first
        obtain ⟨_, _, restChanges⟩ := rest.exists_locations
        obtain ⟨contents, stillStanding⟩ := restChanges.file location _ standing
        exact ⟨location, contents, leads.grow restChanges, stillStanding⟩
      · exact inductionHypothesis file later

theorem exists_leads (written : WritesAll files before after) :
    ∀ file ∈ files, ∃ location, after.Leads file.path location := by
  intro file member
  obtain ⟨location, _, leads, _⟩ := written.exists_file file member
  exact ⟨location, leads⟩

/-- Files at different places keep what was written to them. -/
theorem readText (written : WritesAll files before after)
    (distinct : (files.map fun file => after.locate file.path).Nodup) :
    ∀ file ∈ files, after.readText file.path = .ok file.text := by
  induction written with
  | nil _ =>
      simp
  | cons first rest inductionHypothesis =>
      obtain ⟨location, leads, standing, _⟩ := first
      obtain ⟨locations, restLocated, restChanges⟩ := rest.exists_locations
      have lastLocated := (leads.grow restChanges).locate
      rw [List.map_cons, List.nodup_cons, restLocated, lastLocated] at distinct
      have outside : location ∉ locations := fun member =>
        distinct.1 (List.mem_map.mpr ⟨location, member, rfl⟩)
      intro file member
      rcases List.mem_cons.mp member with rfl | later
      · exact FileSystem.readText_eq_ok_iff.mpr ⟨location, lastLocated,
          (restChanges.unchanged location outside _).mpr standing⟩
      · exact inductionHypothesis (restLocated ▸ distinct.2) file later

/-- A file at any other place is as it was. -/
theorem unchanged (written : WritesAll files before after)
    {location : Location}
    (outside : ∀ file ∈ files, after.locate file.path ≠ .ok location)
    (contents : Contents) :
    after.entry? location = some (.file contents) ↔
      before.entry? location = some (.file contents) := by
  obtain ⟨locations, located, changes⟩ := written.exists_locations
  apply changes.unchanged
  intro member
  obtain ⟨file, fileMember, fileLocated⟩ :=
    exists_mem_of_map_eq_map_ok located member
  exact outside file fileMember fileLocated

end WritesAll

theorem writes_of_run {before after : Workspace}
    (wrote : file.write.run before = (.ok (), after)) :
    file.Writes before.files after.files :=
  Work.exists_leads_of_run wrote

/-- Work that writes a file for each item writes them one after the other. -/
theorem writesAll_of_forM {α : Type} {work : α → Work Unit} {file : α → SiteFile}
    (each : ∀ item {before after : Workspace},
      (work item).run before = (.ok (), after) →
        (file item).Writes before.files after.files)
    {items : List α} {before after : Workspace}
    (wrote : (items.forM work).run before = (.ok (), after)) :
    WritesAll (items.map file) before.files after.files := by
  induction items generalizing before with
  | nil =>
      cases wrote
      exact .nil (.refl _)
  | cons item items inductionHypothesis =>
      obtain ⟨_, middle, first, rest⟩ := Work.run_bind_eq_ok_iff.mp wrote
      exact .cons (each item first) (inductionHypothesis rest)

end SiteFile

namespace Generator

open SiteFile

variable {generator : Generator} {settings : Settings}
  {before after : Workspace}

/-! ## The site as a whole -/

/-- The files of the site as a whole and the index of each artifact. -/
def siteFiles (settings : Settings) (catalog : Catalog) : List SiteFile :=
  sharedFiles settings catalog ++ catalog.groups.map (artifactIndex settings)

section Members

variable (settings) (catalog : Catalog)

theorem marker_mem_siteFiles (marked : settings.writesMarker = true) :
    ⟨settings.output.join ⟨Page.markerName⟩, []⟩ ∈ siteFiles settings catalog := by
  simp [siteFiles, sharedFiles, marked]

theorem stylesheet_mem_siteFiles :
    ⟨settings.output.join ⟨settings.stylesheet⟩, Page.stylesheet⟩ ∈
      siteFiles settings catalog := by
  simp [siteFiles, sharedFiles]

theorem landing_mem_siteFiles :
    ⟨settings.output.join "index.html",
        Page.renderLanding catalog settings.stylesheet⟩ ∈
      siteFiles settings catalog := by
  simp [siteFiles, sharedFiles]

theorem artifactIndex_mem_siteFiles {group : Group}
    (member : group ∈ catalog.groups) :
    artifactIndex settings group ∈ siteFiles settings catalog :=
  List.mem_append_right _ (List.mem_map.mpr ⟨group, member, rfl⟩)

end Members

theorem writes_artifactIndex {group : Group}
    (wrote : (writeArtifactIndex settings group).run before =
      (.ok (), after)) :
    (artifactIndex settings group).Writes before.files after.files := by
  rw [writeArtifactIndex] at wrote
  obtain ⟨_, middle, written, noted⟩ := Work.run_bind_eq_ok_iff.mp wrote
  have writes :
      (artifactIndex settings group).Writes before.files middle.files :=
    writes_of_run written
  cases noted
  exact writes

theorem grows_makeDirectories {path : Path}
    (made : (Work.makeDirectories path).run before = (.ok (), after)) :
    Grows [] before.files after.files := by
  have grows := Grows.makeDirectories before.files path
  rw [Work.run_makeDirectories, Prod.mk.injEq] at made
  rwa [← made.2]

theorem writesAll_siteFiles {catalog : Catalog}
    (wrote : (writeSiteFiles settings catalog).run before =
      (.ok (), after)) :
    WritesAll (siteFiles settings catalog) before.files after.files := by
  rw [writeSiteFiles] at wrote
  obtain ⟨_, _, made, wrote⟩ := Work.run_bind_eq_ok_iff.mp wrote
  obtain ⟨_, middle, wroteShared, wroteIndexes⟩ := Work.run_bind_eq_ok_iff.mp wrote
  have shared := writesAll_of_forM (fun _ => writes_of_run) wroteShared
  have indexes := writesAll_of_forM (fun _ => writes_artifactIndex) wroteIndexes
  rw [List.map_id'] at shared
  rw [siteFiles]
  exact (shared.append indexes).grow_first (grows_makeDirectories made)

/-! ## Pages -/

/-- The page of a job as a function of the files. -/
def pageOf (generator : Generator) (job : PageJob) (files : FileSystem) :
    Except Failure Text := do
  let source := job.snapshot.docFile
  let language ← languageOf generator.registry source
  let contents ← (files.readText source).mapError (.read source)
  let (sections, _) ← generator.sectionsOf language job.snapshot contents
  return Page.renderRevision {
    snapshot := job.snapshot
    others := job.others
    sections
    stylesheetName := generator.settings.stylesheet }

theorem reads_readPage (generator : Generator) (job : PageJob) :
    (generator.readPage job).Reads (generator.pageOf job) := by
  refine (Work.reads_lift _).bind fun language =>
    (Work.reads_readText _).bind fun contents =>
      (Work.reads_lift _).bind fun found => ?_
  dsimp only
  split
  · exact (Work.reads_note _ _).bind fun _ => Work.reads_pure _
  · exact Work.reads_pure _

theorem pageOf_eq_ok_iff {job : PageJob} {files : FileSystem} {text : Text} :
    generator.pageOf job files = .ok text ↔
      ∃ language contents sections found,
        generator.registry.ofPath? job.snapshot.docFile = some language ∧
        files.readText job.snapshot.docFile = .ok contents ∧
        Body.highlight language generator.highlighter generator.markdown
            (Section.parse language contents job.snapshot.firstCodeLine) =
          .ok (sections, found) ∧
        text = Page.renderRevision {
          snapshot := job.snapshot
          others := job.others
          sections
          stylesheetName := generator.settings.stylesheet } := by
  rw [pageOf]
  simp only [bind_eq_ok_iff]
  constructor
  · rintro ⟨language, known, contents, read, ⟨sections, found⟩, highlighted, done⟩
    refine ⟨language, contents, sections, found, ?_, ?_, ?_, ?_⟩
    · rw [languageOf] at known
      split at known
      · cases known
        assumption
      · cases known
    · cases readEq : files.readText job.snapshot.docFile with
      | error fault =>
          rw [readEq] at read
          cases read
      | ok other =>
          rw [readEq] at read
          cases read
          rfl
    · rw [sectionsOf] at highlighted
      split at highlighted
      · cases highlighted
        assumption
      · cases highlighted
    · exact (Except.ok.inj done).symm
  · rintro ⟨language, contents, sections, found, known, read, highlighted, rfl⟩
    exact ⟨language, by rw [languageOf, known], contents, by rw [read]; rfl,
      (sections, found), by rw [sectionsOf, highlighted], rfl⟩

/-- A page depends on its source alone. -/
theorem pageOf_congr {job : PageJob} {files others : FileSystem}
    (same : files.readText job.snapshot.docFile =
      others.readText job.snapshot.docFile) :
    generator.pageOf job files = generator.pageOf job others := by
  rw [pageOf, pageOf, same]

theorem writePage_eq_ok {job : PageJob} {page : Path}
    (wrote : (generator.writePage job).run before = (.ok page, after)) :
    page = job.snapshot.destination generator.settings.output ∧
      ∃ text, generator.pageOf job before.files = .ok text ∧
        SiteFile.Writes
          ⟨job.snapshot.destination generator.settings.output, text⟩
          before.files after.files := by
  rw [writePage] at wrote
  obtain ⟨text, log, pageEq, stored⟩ :=
    (reads_readPage generator job).run_bind_eq_ok wrote
  rw [storePage] at stored
  obtain ⟨_, last, written, noted⟩ := Work.run_bind_eq_ok_iff.mp stored
  obtain ⟨_, _, _, returned⟩ := (Work.reads_note _ _).run_bind_eq_ok noted
  cases returned
  have stands :
      SiteFile.Writes
        ⟨job.snapshot.destination generator.settings.output, text⟩
        before.files last.files :=
    @writes_of_run ⟨_, _⟩ ⟨before.files, log⟩ last written
  exact ⟨rfl, text, pageEq, stands⟩

theorem exists_grows_of_runsEach {jobs : List PageJob} {pages : List Path}
    (runs : Work.RunsEach generator.writePage jobs before pages after) :
    ∃ changed, Grows changed before.files after.files := by
  induction runs with
  | nil workspace =>
      exact ⟨[], .refl _⟩
  | cons step _ inductionHypothesis =>
      obtain ⟨_, _, _, location, _, _, grows⟩ := writePage_eq_ok step
      obtain ⟨changed, later⟩ := inductionHypothesis
      exact ⟨_, grows.trans later⟩

theorem pages_eq_of_runsEach {jobs : List PageJob} {pages : List Path}
    (runs : Work.RunsEach generator.writePage jobs before pages after) :
    pages = jobs.map fun job =>
      job.snapshot.destination generator.settings.output := by
  induction runs with
  | nil workspace =>
      rfl
  | cons step _ inductionHypothesis =>
      rw [List.map_cons, (writePage_eq_ok step).1, inductionHypothesis]

/-- Pages are written from the original sources, as long as nothing that is
written on the way is the source of a page. -/
theorem writesAll_pages {original : FileSystem} {written : List Path}
    {jobs : List PageJob} {pages : List Path}
    (runs : Work.RunsEach generator.writePage jobs before pages after)
    {changed : List Location} (grows : Grows changed original before.files)
    (named : ∀ location ∈ changed, ∃ path ∈ written,
      after.files.locate path = .ok location)
    (destinations : ∀ job ∈ jobs,
      job.snapshot.destination generator.settings.output ∈ written)
    (sources : ∀ job ∈ jobs, ∃ contents,
      original.readText job.snapshot.docFile = .ok contents)
    (apart : ∀ job ∈ jobs, ∀ path ∈ written,
      after.files.locate path ≠ after.files.locate job.snapshot.docFile) :
    ∃ files, List.Forall₂ (fun job file =>
        file.path = job.snapshot.destination generator.settings.output ∧
        generator.pageOf job original = .ok file.text) jobs files ∧
      WritesAll files before.files after.files := by
  -- The induction is on the jobs still to be done; what is changed so far grows
  -- by one destination with each of them.
  induction runs generalizing changed with
  | nil workspace =>
      exact ⟨[], .nil, .nil (.refl _)⟩
  | @cons job jobs page pages before middle after step rest inductionHypothesis =>
      obtain ⟨_, text, pageEq, location, leads, standing, changes⟩ :=
        writePage_eq_ok step
      obtain ⟨laterChanged, laterGrows⟩ := exists_grows_of_runsEach rest
      have lastLocated := (leads.grow laterGrows).locate
      obtain ⟨files, filesEq, wrote⟩ :=
        inductionHypothesis (grows.trans changes)
          (by
            intro other member
            rcases List.mem_append.mp member with earlier | here
            · exact named other earlier
            · rw [List.mem_singleton.mp here]
              exact ⟨_, destinations job List.mem_cons_self, lastLocated⟩)
          (fun other member => destinations other (List.mem_cons_of_mem job member))
          (fun other member => sources other (List.mem_cons_of_mem job member))
          (fun other member => apart other (List.mem_cons_of_mem job member))
      have samePage :
          generator.pageOf job original = generator.pageOf job before.files := by
        obtain ⟨contents, read⟩ := sources job List.mem_cons_self
        have outside :
            ∀ other ∈ changed,
              before.files.locate job.snapshot.docFile ≠ .ok other := by
          intro other member sourceLocated
          obtain ⟨path, pathMember, pathLocated⟩ := named other member
          apply apart job List.mem_cons_self path pathMember
          rw [pathLocated, (changes.trans laterGrows).locate sourceLocated]
        exact pageOf_congr (read.trans (grows.readText read outside).symm)
      exact ⟨_ :: files, .cons ⟨rfl, samePage.trans pageEq⟩ filesEq,
        .cons ⟨location, leads, standing, changes⟩ wrote⟩

/-! ## The run -/

/-- Where the site of a catalog stands: the marker if it is wanted, the
stylesheet, the landing page, the index of each artifact and the page of each
snapshot. -/
def sitePaths (settings : Settings) (catalog : Catalog) : List Path :=
  let output := settings.output
  (if settings.writesMarker then [output.join ⟨Page.markerName⟩] else []) ++
    [output.join ⟨settings.stylesheet⟩, output.join "index.html"] ++
    (catalog.groups.map fun group =>
      (output.join ⟨group.name⟩).join "index.html") ++
    catalog.jobs.map fun job => job.snapshot.destination output

theorem sitePaths_eq (settings : Settings) (catalog : Catalog) :
    sitePaths settings catalog =
      (siteFiles settings catalog).map SiteFile.path ++
        catalog.jobs.map fun job => job.snapshot.destination settings.output := by
  rw [sitePaths, siteFiles, sharedFiles]
  cases settings.writesMarker <;>
    simp [artifactIndex, Function.comp_def]

theorem exists_site_of_publish {snapshots : List Snapshot}
    {report : SiteReport}
    (ran : (generator.publish snapshots).run before = (.ok report, after)) :
    ∃ middle : Workspace,
      WritesAll (siteFiles generator.settings (Catalog.ofSnapshots snapshots))
        before.files middle.files ∧
      Work.RunsEach generator.writePage (Catalog.ofSnapshots snapshots).jobs
        middle report.pages after ∧
      report.artifacts = (Catalog.ofSnapshots snapshots).artifactCount := by
  rw [publish] at ran
  obtain ⟨_, log, _, ran⟩ := (reads_announce generator _).run_bind_eq_ok ran
  rw [writeSite] at ran
  obtain ⟨_, middle, wroteSite, ran⟩ := Work.run_bind_eq_ok_iff.mp ran
  obtain ⟨_, _, wrotePages, returned⟩ := Work.run_bind_eq_ok_iff.mp ran
  cases returned
  rw [writePages] at wrotePages
  obtain ⟨_, pagesLog, _, wrotePages⟩ :=
    (Work.reads_note _ _).run_bind_eq_ok wrotePages
  have site := writesAll_siteFiles wroteSite
  exact ⟨⟨middle.files, pagesLog⟩, site,
    FailurePolicy.runsEach_of_forEach wrotePages, rfl⟩

/-- A run that succeeds has read all headers and published the snapshots. -/
theorem exists_publish_of_generate {report : SiteReport}
    (succeeded : generator.generate.run before = (.ok report, after)) :
    ∃ snapshots log, generator.snapshotsOf before.files = .ok snapshots ∧
      (generator.publish snapshots).run { before with log } =
        (.ok report, after) := by
  cases read : generator.snapshotsOf before.files with
  | error failure =>
      obtain ⟨log, failed⟩ := run_generate_of_error read
      rw [failed] at succeeded
      cases succeeded
  | ok snapshots =>
      rw [run_generate_of_ok read] at succeeded
      exact ⟨snapshots, _, rfl, succeeded⟩

theorem destinations_of_forall₂ {jobs : List PageJob} {files : List SiteFile}
    {output : Path} {page : PageJob → SiteFile → Prop}
    (related : List.Forall₂ (fun job file =>
      file.path = job.snapshot.destination output ∧ page job file) jobs files) :
    jobs.map (fun job => job.snapshot.destination output) =
      files.map SiteFile.path := by
  induction related with
  | nil =>
      rfl
  | cons first _ inductionHypothesis =>
      rw [List.map_cons, List.map_cons, first.1, inductionHypothesis]

theorem exists_right_of_mem {jobs : List PageJob} {files : List SiteFile}
    {page : PageJob → SiteFile → Prop} (related : List.Forall₂ page jobs files)
    {job : PageJob} (member : job ∈ jobs) : ∃ file ∈ files, page job file := by
  induction related with
  | nil =>
      cases member
  | @cons first file _ _ here _ inductionHypothesis =>
      rcases List.mem_cons.mp member with rfl | later
      · exact ⟨file, List.mem_cons_self, here⟩
      · obtain ⟨other, otherMember, there⟩ := inductionHypothesis later
        exact ⟨other, List.mem_cons_of_mem file otherMember, there⟩

/-- The whole site is written from the original sources, as long as none of its
files is one of them. -/
theorem writesAll_site {catalog : Catalog} {pages : List Path}
    {original : FileSystem}
    (wroteSite : WritesAll (siteFiles generator.settings catalog) original
      before.files)
    (wrotePages :
      Work.RunsEach generator.writePage catalog.jobs before pages after)
    (sources : ∀ job ∈ catalog.jobs, ∃ contents,
      original.readText job.snapshot.docFile = .ok contents)
    (apart : ∀ job ∈ catalog.jobs,
      ∀ path ∈ sitePaths generator.settings catalog,
        after.files.locate path ≠ after.files.locate job.snapshot.docFile) :
    ∃ files, List.Forall₂ (fun job file =>
        file.path = job.snapshot.destination generator.settings.output ∧
        generator.pageOf job original = .ok file.text) catalog.jobs files ∧
      WritesAll (siteFiles generator.settings catalog ++ files) original
        after.files := by
  obtain ⟨locations, located, grows⟩ := wroteSite.exists_locations
  obtain ⟨changed, laterGrows⟩ := exists_grows_of_runsEach wrotePages
  have named :
      ∀ location ∈ locations,
        ∃ path ∈ sitePaths generator.settings catalog,
          after.files.locate path = .ok location := by
    intro location member
    obtain ⟨file, fileMember, fileLocated⟩ :=
      exists_mem_of_map_eq_map_ok located member
    refine ⟨file.path, ?_, laterGrows.locate fileLocated⟩
    rw [sitePaths_eq]
    exact List.mem_append_left _ (List.mem_map.mpr ⟨file, fileMember, rfl⟩)
  obtain ⟨files, filesEq, written⟩ :=
    writesAll_pages wrotePages grows named
      (fun job member =>
        List.mem_append_right _ (List.mem_map.mpr ⟨job, member, rfl⟩))
      sources apart
  exact ⟨files, filesEq, wroteSite.append written⟩

/-- A run that succeeds has read all headers, has one page for each snapshot,
reports the pages in the order of the catalog and counts the artifacts.  If the
files it writes are at different places and none of them is an input file, they
hold the site of the original input files, and every other file is as it was. -/
theorem generate_writes_site (generator : Generator) (before after : Workspace)
    (report : SiteReport)
    (succeeded : generator.generate.run before = (.ok report, after)) :
    ∃ inputs snapshots,
      InputFile.discover before.files generator.settings.input = .ok inputs ∧
      inputs.map (fun input =>
          snapshotOf generator.registry input before.files) =
        snapshots.map .ok ∧
      let catalog := Catalog.ofSnapshots snapshots
      let output := generator.settings.output
      let stylesheet := generator.settings.stylesheet
      let paths := sitePaths generator.settings catalog
      (catalog.jobs.map PageJob.snapshot).Perm snapshots ∧
      report.pages =
        catalog.jobs.map (fun job => job.snapshot.destination output) ∧
      report.artifacts = (snapshots.map Snapshot.artifact).toFinset.card ∧
      ((paths.map after.files.locate).Nodup →
        (∀ path ∈ paths, ∀ input ∈ inputs,
          after.files.locate path ≠ after.files.locate input.path) →
        (generator.settings.writesMarker = true →
          after.files.readText (output.join ⟨Page.markerName⟩) = .ok []) ∧
        after.files.readText (output.join ⟨stylesheet⟩) = .ok Page.stylesheet ∧
        after.files.readText (output.join "index.html") =
          .ok (Page.renderLanding catalog stylesheet) ∧
        (∀ group ∈ catalog.groups,
          after.files.readText ((output.join ⟨group.name⟩).join "index.html") =
            .ok (Page.renderArtifactIndex group stylesheet)) ∧
        (∀ job ∈ catalog.jobs, ∃ language contents sections found,
          generator.registry.ofPath? job.snapshot.docFile = some language ∧
          before.files.readText job.snapshot.docFile = .ok contents ∧
          Body.highlight language generator.highlighter generator.markdown
              (Section.parse language contents job.snapshot.firstCodeLine) =
            .ok (sections, found) ∧
          after.files.readText (job.snapshot.destination output) =
            .ok (Page.renderRevision {
              snapshot := job.snapshot
              others := job.others
              sections
              stylesheetName := stylesheet })) ∧
        ∀ location, (∀ path ∈ paths, after.files.locate path ≠ .ok location) →
          ∀ contents,
            after.files.entry? location = some (.file contents) ↔
              before.files.entry? location = some (.file contents)) := by
  obtain ⟨snapshots, log, read, published⟩ :=
    exists_publish_of_generate succeeded
  obtain ⟨middle, wroteSite, wrotePages, counted⟩ :=
    exists_site_of_publish published
  obtain ⟨inputs, listed, inputsRead⟩ := snapshotsOf_eq_ok_iff.mp read
  refine ⟨inputs, snapshots, listed, inputsRead,
    Catalog.map_snapshot_jobs_perm snapshots, pages_eq_of_runsEach wrotePages,
    counted.trans (Catalog.artifactCount_ofSnapshots snapshots), ?_⟩
  intro distinct apart
  have origin :
      ∀ job ∈ (Catalog.ofSnapshots snapshots).jobs, ∃ input ∈ inputs,
        snapshotOf generator.registry input before.files =
          .ok job.snapshot := fun job member =>
    exists_mem_of_map_eq_map_ok inputsRead
      (Catalog.snapshot_mem_of_mem_jobs member).1
  obtain ⟨pageFiles, pagesEq, written⟩ :=
    writesAll_site wroteSite wrotePages
      (fun job member => by
        obtain ⟨input, _, inputRead⟩ := origin job member
        obtain ⟨_, contents, _, contentsRead, _⟩ :=
          snapshotOf_eq_ok_iff.mp inputRead
        exact ⟨contents, (origin_of_snapshotOf inputRead).2 ▸ contentsRead⟩)
      (fun job member path pathMember => by
        obtain ⟨input, inputMember, inputRead⟩ := origin job member
        rw [(origin_of_snapshotOf inputRead).2]
        exact apart path pathMember input inputMember)
  have pathsEq :
      sitePaths generator.settings (Catalog.ofSnapshots snapshots) =
        (siteFiles generator.settings (Catalog.ofSnapshots snapshots) ++
          pageFiles).map SiteFile.path := by
    rw [sitePaths_eq, List.map_append, destinations_of_forall₂ pagesEq]
  rw [pathsEq] at distinct ⊢
  rw [List.map_map] at distinct
  have holds := written.readText distinct
  have holdsSite {file : SiteFile} (member : file ∈
      siteFiles generator.settings (Catalog.ofSnapshots snapshots)) :
      after.files.readText file.path = .ok file.text :=
    holds file (List.mem_append_left _ member)
  refine ⟨fun marked => holdsSite (marker_mem_siteFiles _ _ marked),
    holdsSite (stylesheet_mem_siteFiles _ _),
    holdsSite (landing_mem_siteFiles _ _),
    fun group member => holdsSite (artifactIndex_mem_siteFiles _ _ member), ?_, ?_⟩
  · intro job member
    obtain ⟨file, fileMember, pathEq, pageEq⟩ := exists_right_of_mem pagesEq member
    obtain ⟨language, contents, sections, found, known, contentsRead,
      highlighted, textEq⟩ := pageOf_eq_ok_iff.mp pageEq
    refine ⟨language, contents, sections, found, known, contentsRead,
      highlighted, ?_⟩
    rw [← textEq, ← pathEq]
    exact holds file (List.mem_append_right _ fileMember)
  · intro location outside
    apply written.unchanged
    intro file member
    exact outside file.path (List.mem_map.mpr ⟨file, member, rfl⟩)

/-- A run on one input file: its page and the files of the site stand at
different places, and the input file is as it was. -/
theorem generate_writes_site_python :
    let source := "# Commit: 1\n# CommitDate: Jan 2 2020\n# SourceFile: x.py\n" ++
      "# SourceLink: l\n# DocAuthor: Ada\nx = 1\n# two\ny = 2\n"
    let files : FileSystem :=
      { entries :=
          [(["in"], .directory), (["in", "a"], .directory),
            (["in", "a", "x.py"], .file (.text source))] }
    let generator : Generator :=
      { settings := { input := "in", output := "out" }
        highlighter := fun _ code => .ok (Highlight.renderSpans code [])
        markdown := Markdown.toHtml }
    let snapshot : Snapshot :=
      ⟨"a", "1", ⟨2020, 1, 2⟩, "Jan 2 2020", "x.py", "l", "Ada", "in/a/x.py", 5⟩
    ∃ after sections,
      generator.generate.run ⟨files, []⟩ = (.ok ⟨1, ["out/a/x.html"]⟩, after) ∧
      after.files.readText "out/.nojekyll" = .ok [] ∧
      after.files.readText "out/a/x.html" =
        .ok (Page.renderRevision ⟨snapshot, [], sections, "lazylit.css"⟩) ∧
      after.files.entry? ["in", "a", "x.py"] = some (.file (.text source)) := by
  intro source files generator snapshot
  have outcomeEq :
      (generator.generate.run ⟨files, []⟩).1 = .ok ⟨1, ["out/a/x.html"]⟩ :=
    eq_ok_of_toOption (by decide +kernel)
  have succeeded :
      generator.generate.run ⟨files, []⟩ =
        (.ok ⟨1, ["out/a/x.html"]⟩, (generator.generate.run ⟨files, []⟩).2) :=
    Work.run_of_outcome outcomeEq
  have located :
      (sitePaths generator.settings (Catalog.ofSnapshots [snapshot]) ++
          [("in/a/x.py" : Path)]).map
            (generator.generate.run ⟨files, []⟩).2.files.locate =
        [.ok ["out", ".nojekyll"], .ok ["out", "lazylit.css"],
          .ok ["out", "index.html"], .ok ["out", "a", "index.html"],
          .ok ["out", "a", "x.html"], .ok ["in", "a", "x.py"]] := by
    decide +kernel
  generalize (generator.generate.run ⟨files, []⟩).2 = after at succeeded located
  obtain ⟨inputs, snapshots, listed, read, _, _, _, site⟩ :=
    generate_writes_site generator ⟨files, []⟩ after _ succeeded
  have inputsEq : inputs = [⟨"a", "in/a/x.py"⟩] :=
    Except.ok.inj (listed.symm.trans (eq_ok_of_toOption (by decide +kernel)))
  have snapshotsEq : snapshots = [snapshot] := by
    have parsed :
        snapshotOf .builtin ⟨"a", "in/a/x.py"⟩ files = .ok snapshot :=
      eq_ok_of_toOption (by decide +kernel)
    rw [inputsEq, List.map_singleton, parsed] at read
    exact List.map_injective_iff.mpr (fun _ _ => Except.ok.inj) read.symm
  subst inputsEq snapshotsEq
  have sourceLocated :
      after.files.locate "in/a/x.py" = .ok ["in", "a", "x.py"] := by
    simpa using congrArg List.getLast? located
  have different :
      ((sitePaths generator.settings (Catalog.ofSnapshots [snapshot]) ++
        [("in/a/x.py" : Path)]).map after.files.locate).Nodup := by
    rw [located]
    decide
  rw [List.map_append, List.nodup_append] at different
  obtain ⟨distinct, _, disjoint⟩ := different
  have apart :
      ∀ path ∈ sitePaths generator.settings (Catalog.ofSnapshots [snapshot]),
        after.files.locate path ≠ after.files.locate "in/a/x.py" :=
    fun path member => disjoint _ (List.mem_map.mpr ⟨path, member, rfl⟩) _
      List.mem_cons_self
  obtain ⟨marker, _, _, _, pages, unchanged⟩ :=
    site distinct fun path member input inputMember => by
      rw [List.mem_singleton.mp inputMember]
      exact apart path member
  obtain ⟨_, _, sections, _, _, _, _, page⟩ :=
    pages ⟨snapshot, []⟩ (by decide +kernel)
  have pagePath : snapshot.destination "out" = "out/a/x.html" := by
    decide +kernel
  rw [pagePath] at page
  exact ⟨after, sections, succeeded,
    marker rfl, page,
    (unchanged _ (fun path member => sourceLocated ▸ apart path member) _).mpr
      (by decide +kernel)⟩

end Generator

end Marginalia
