import Marginalia.Proofs.FileSystem.Relative
import Marginalia.Proofs.Page.Link
import Marginalia.Proofs.Site.Naming
import Marginalia.Proofs.Site.Publication

/-!
# Links of a site

The links of a page are followed from its directory.  After a run they lead to
files of the site: those of the landing page to the indexes of all artifacts, those
of an index to the pages of all revisions of the artifact, and those of the menu of
a page to the pages of the other revisions.  Every page links to the stylesheet.
-/

namespace Marginalia

namespace FileSystem

variable {files : FileSystem} {page target : Path} {link : Text}

/-- A link, followed from the directory of a page, leads to the file that a path
names. -/
def Reaches (files : FileSystem) (page : Path) (link : Text) (target : Path) :
    Prop :=
  ∃ location contents,
    files.locate (page.beside link) = .ok location ∧
    files.locate target = .ok location ∧
    files.entry? location = some (.file contents)

/-- The links that are read from a page lead to the files that some paths name, in
this order. -/
def LinksTo (files : FileSystem) (page : Path) (linksOf : Text → List Text)
    (targets : List Path) : Prop :=
  ∃ html, files.readText page = .ok html ∧
    List.Forall₂ (files.Reaches page) (linksOf html) targets

theorem reaches_of_readText {text : Text}
    (same : files.locate (page.beside link) = files.locate target)
    (read : files.readText target = .ok text) : files.Reaches page link target := by
  obtain ⟨location, located, standing⟩ := readText_eq_ok_iff.mp read
  exact ⟨location, .text text, same.trans located, located, standing⟩

end FileSystem

/-! ## Following links -/

section Following

variable {files : FileSystem} {output : Path} {location : Location}
  {artifact name : Text}

theorem locate_beside_artifactLink
    (leads : files.Leads (output.join "index.html") location)
    (isName : Path.IsName artifact) :
    files.locate ((output.join "index.html").beside (Page.artifactLink artifact)) =
      files.locate ((output.join ⟨artifact⟩).join "index.html") := by
  have relative : Path.isAbsolute "index.html" = false := by
    decide +kernel
  rw [Page.artifactLink,
    leads.locate_beside isName_indexName (Path.isAbsolute_name_append isName _)
      (by simp), Path.join_join_relative isName relative]

theorem locate_beside_pageName
    (leads : files.Leads ((output.join ⟨artifact⟩).join ⟨name⟩) location)
    (isName : Path.IsName name) {snapshot : Snapshot}
    (sameArtifact : snapshot.artifact = artifact) :
    files.locate
        (((output.join ⟨artifact⟩).join ⟨name⟩).beside snapshot.pageName) =
      files.locate (snapshot.destination output) := by
  have pageIsName := snapshot.isName_pageName
  rw [leads.locate_beside isName (Path.isAbsolute_of_noSlash pageIsName.noSlash)
    pageIsName.nonempty, Snapshot.destination, sameArtifact]

theorem locate_beside_above {stylesheet : Text}
    (leads : files.Leads ((output.join ⟨artifact⟩).join ⟨name⟩) location)
    (artifactIsName : Path.IsName artifact) (isName : Path.IsName name)
    (stylesheetIsName : Path.IsName stylesheet) :
    files.locate (((output.join ⟨artifact⟩).join ⟨name⟩).beside
        ('.' :: '.' :: '/' :: stylesheet)) =
      files.locate (output.join ⟨stylesheet⟩) := by
  rw [leads.locate_beside isName rfl (List.cons_ne_nil _ _)]
  exact leads.locate_join_above artifactIsName isName
    (Path.isAbsolute_of_noSlash stylesheetIsName.noSlash) stylesheetIsName.nonempty

end Following

namespace Generator

open SiteFile

variable {generator : Generator} {before after : Workspace}

/-! ## Pages with their links -/

/-- Each page is written with the menu of the other revisions. -/
theorem exists_pageFiles {jobs : List PageJob} {pages : List Path}
    (runs : Work.RunsEach generator.writePage jobs before pages after) :
    ∃ files, List.Forall₂ (fun job file =>
        file.path = job.snapshot.destination generator.settings.output ∧
        ∃ sections, file.text = Page.renderRevision {
          snapshot := job.snapshot
          others := job.others
          sections
          stylesheetName := generator.settings.stylesheet }) jobs files ∧
      WritesAll files before.files after.files := by
  induction runs with
  | nil workspace =>
      exact ⟨[], .nil, .nil (.refl _)⟩
  | cons step _ inductionHypothesis =>
      obtain ⟨_, text, pageEq, writes⟩ := writePage_eq_ok step
      obtain ⟨_, _, sections, _, _, _, _, textEq⟩ := pageOf_eq_ok_iff.mp pageEq
      obtain ⟨files, filesEq, written⟩ := inductionHypothesis
      exact ⟨_ :: files, .cons ⟨rfl, sections, textEq⟩ filesEq, .cons writes written⟩

/-- What holds of the files after a run whose files are at different places. -/
structure HasSite (generator : Generator) (catalog : Catalog)
    (files : FileSystem) : Prop where
  leads : ∀ path ∈ sitePaths generator.settings catalog,
    ∃ location, files.Leads path location
  site : ∀ file ∈ siteFiles generator.settings catalog,
    files.readText file.path = .ok file.text
  pages : ∀ job ∈ catalog.jobs, ∃ sections,
    files.readText (job.snapshot.destination generator.settings.output) =
      .ok (Page.renderRevision {
        snapshot := job.snapshot
        others := job.others
        sections
        stylesheetName := generator.settings.stylesheet })

theorem hasSite_of_run {catalog : Catalog} {pages : List Path}
    {original : FileSystem}
    (wroteSite : WritesAll (siteFiles generator.settings catalog) original
      before.files)
    (wrotePages :
      Work.RunsEach generator.writePage catalog.jobs before pages after)
    (distinct : ((sitePaths generator.settings catalog).map
      after.files.locate).Nodup) :
    HasSite generator catalog after.files := by
  obtain ⟨pageFiles, pagesEq, written⟩ := exists_pageFiles wrotePages
  have writtenAll := wroteSite.append written
  have pathsEq :
      sitePaths generator.settings catalog =
        (siteFiles generator.settings catalog ++ pageFiles).map SiteFile.path := by
    rw [sitePaths_eq, List.map_append, destinations_of_forall₂ pagesEq]
  rw [pathsEq, List.map_map] at distinct
  have holds := writtenAll.readText distinct
  constructor
  case leads =>
    intro path member
    rw [pathsEq, List.mem_map] at member
    obtain ⟨file, fileMember, rfl⟩ := member
    exact writtenAll.exists_leads file fileMember
  case site =>
    intro file member
    exact holds file (List.mem_append_left _ member)
  case pages =>
    intro job member
    obtain ⟨file, fileMember, pathEq, sections, textEq⟩ :=
      exists_right_of_mem pagesEq member
    refine ⟨sections, ?_⟩
    rw [← textEq, ← pathEq]
    exact holds file (List.mem_append_right _ fileMember)

namespace HasSite

variable {catalog : Catalog} {files : FileSystem}

/-- Links to files of the site, one for each item of a list. -/
theorem linksTo {α : Type} {items : List α} {page : Path} {html : Text}
    {linksOf : Text → List Text} {link : α → Text} {target : α → Path}
    (read : files.readText page = .ok html) (linksEq : linksOf html = items.map link)
    (same : ∀ item ∈ items,
      files.locate (page.beside (link item)) = files.locate (target item))
    (stands : ∀ item ∈ items, ∃ text, files.readText (target item) = .ok text) :
    files.LinksTo page linksOf (items.map target) := by
  refine ⟨html, read, ?_⟩
  rw [linksEq, List.forall₂_map_left_iff, List.forall₂_map_right_iff,
    List.forall₂_same]
  intro item member
  obtain ⟨text, targetRead⟩ := stands item member
  exact FileSystem.reaches_of_readText (same item member) targetRead

theorem readText_index (hasSite : HasSite generator catalog files) {group : Group}
    (member : group ∈ catalog.groups) :
    files.readText
        ((generator.settings.output.join ⟨group.name⟩).join "index.html") =
      .ok (Page.renderArtifactIndex group generator.settings.stylesheet) :=
  hasSite.site _ (artifactIndex_mem_siteFiles _ _ member)

theorem readText_stylesheet (hasSite : HasSite generator catalog files) :
    files.readText
        (generator.settings.output.join ⟨generator.settings.stylesheet⟩) =
      .ok Page.stylesheet :=
  hasSite.site _ (stylesheet_mem_siteFiles _ _)

theorem readText_landing (hasSite : HasSite generator catalog files) :
    files.readText (generator.settings.output.join "index.html") =
      .ok (Page.renderLanding catalog generator.settings.stylesheet) :=
  hasSite.site _ (landing_mem_siteFiles _ _)

theorem exists_readText_page (hasSite : HasSite generator catalog files)
    {group : Group} (member : group ∈ catalog.groups) {snapshot : Snapshot}
    (listed : snapshot ∈ group.snapshots) :
    ∃ text, files.readText
      (snapshot.destination generator.settings.output) = .ok text := by
  rw [← group.map_snapshot_jobs, List.mem_map] at listed
  obtain ⟨job, jobMember, rfl⟩ := listed
  obtain ⟨_, read⟩ := hasSite.pages job (List.mem_flatMap.mpr ⟨group, member, jobMember⟩)
  exact ⟨_, read⟩

theorem leads_landing (hasSite : HasSite generator catalog files) :
    ∃ location, files.Leads
      (generator.settings.output.join "index.html") location :=
  hasSite.leads _ (by simp [sitePaths])

theorem leads_index (hasSite : HasSite generator catalog files) {group : Group}
    (member : group ∈ catalog.groups) :
    ∃ location, files.Leads
      ((generator.settings.output.join ⟨group.name⟩).join "index.html") location := by
  apply hasSite.leads
  exact List.mem_append_left _
    (List.mem_append_right _ (List.mem_map.mpr ⟨group, member, rfl⟩))

theorem leads_page (hasSite : HasSite generator catalog files) {job : PageJob}
    (member : job ∈ catalog.jobs) :
    ∃ location, files.Leads
      (job.snapshot.destination generator.settings.output) location :=
  hasSite.leads _ (List.mem_append_right _ (List.mem_map.mpr ⟨job, member, rfl⟩))

/-! ## The links of each kind of page -/

theorem landing_linksTo (hasSite : HasSite generator catalog files)
    (named : ∀ group ∈ catalog.groups, Path.IsName group.name) :
    files.LinksTo (generator.settings.output.join "index.html") Page.itemLinks
      (catalog.groups.map fun group =>
        (generator.settings.output.join ⟨group.name⟩).join "index.html") := by
  obtain ⟨location, leads⟩ := hasSite.leads_landing
  have linksEq :
      Page.itemLinks (Page.renderLanding catalog generator.settings.stylesheet) =
        catalog.groups.map fun group => Page.artifactLink group.name := by
    rw [Page.itemLinks_renderLanding, Catalog.names, List.map_map]
    rfl
  refine linksTo hasSite.readText_landing linksEq ?_ ?_
  · intro group member
    exact locate_beside_artifactLink leads (named group member)
  · intro group member
    exact ⟨_, hasSite.readText_index member⟩

/-- A page whose only link to a stylesheet leads to the one of the site. -/
theorem linksTo_stylesheet (hasSite : HasSite generator catalog files)
    {page : Path} {html link : Text} (read : files.readText page = .ok html)
    (linksEq : Page.stylesheetLinks html = [link])
    (same : files.locate (page.beside link) =
      files.locate
        (generator.settings.output.join ⟨generator.settings.stylesheet⟩)) :
    files.LinksTo page Page.stylesheetLinks
      [generator.settings.output.join ⟨generator.settings.stylesheet⟩] := by
  refine ⟨html, read, ?_⟩
  rw [linksEq]
  exact .cons (FileSystem.reaches_of_readText same hasSite.readText_stylesheet) .nil

theorem landing_linksTo_stylesheet (hasSite : HasSite generator catalog files)
    (isName : Path.IsName generator.settings.stylesheet) :
    files.LinksTo (generator.settings.output.join "index.html")
      Page.stylesheetLinks
      [generator.settings.output.join ⟨generator.settings.stylesheet⟩] := by
  obtain ⟨location, leads⟩ := hasSite.leads_landing
  have same :=
    leads.locate_beside isName_indexName
      (Path.isAbsolute_of_noSlash isName.noSlash) isName.nonempty
  exact hasSite.linksTo_stylesheet hasSite.readText_landing
    (Page.stylesheetLinks_renderLanding catalog _) same

/-- A page in the directory of an artifact that links to the stylesheet above. -/
theorem linksTo_stylesheet_above (hasSite : HasSite generator catalog files)
    (isName : Path.IsName generator.settings.stylesheet) {artifact name html : Text}
    {location : Location} (artifactIsName : Path.IsName artifact)
    (nameIsName : Path.IsName name)
    (leads : files.Leads
      ((generator.settings.output.join ⟨artifact⟩).join ⟨name⟩) location)
    (read : files.readText
      ((generator.settings.output.join ⟨artifact⟩).join ⟨name⟩) = .ok html)
    (linksEq : Page.stylesheetLinks html =
      ['.' :: '.' :: '/' :: generator.settings.stylesheet]) :
    files.LinksTo ((generator.settings.output.join ⟨artifact⟩).join ⟨name⟩)
      Page.stylesheetLinks
      [generator.settings.output.join ⟨generator.settings.stylesheet⟩] := by
  have same := locate_beside_above leads artifactIsName nameIsName isName
  exact hasSite.linksTo_stylesheet read linksEq same

theorem index_linksTo (hasSite : HasSite generator catalog files) {group : Group}
    (member : group ∈ catalog.groups)
    (grouped : ∀ snapshot ∈ group.snapshots, snapshot.artifact = group.name) :
    files.LinksTo ((generator.settings.output.join ⟨group.name⟩).join "index.html")
      Page.itemLinks
      (group.snapshots.map fun snapshot =>
        snapshot.destination generator.settings.output) := by
  obtain ⟨location, leads⟩ := hasSite.leads_index member
  refine linksTo (hasSite.readText_index member)
    (Page.itemLinks_renderArtifactIndex group _) ?_ ?_
  · intro snapshot listed
    exact locate_beside_pageName leads isName_indexName (grouped snapshot listed)
  · intro snapshot listed
    exact hasSite.exists_readText_page member listed

theorem index_linksTo_stylesheet (hasSite : HasSite generator catalog files)
    (isName : Path.IsName generator.settings.stylesheet) {group : Group}
    (member : group ∈ catalog.groups) (named : Path.IsName group.name) :
    files.LinksTo ((generator.settings.output.join ⟨group.name⟩).join "index.html")
      Page.stylesheetLinks
      [generator.settings.output.join ⟨generator.settings.stylesheet⟩] := by
  obtain ⟨location, leads⟩ := hasSite.leads_index member
  exact hasSite.linksTo_stylesheet_above isName named isName_indexName leads
    (hasSite.readText_index member) (Page.stylesheetLinks_renderArtifactIndex group _)

theorem page_linksTo (hasSite : HasSite generator catalog files) {group : Group}
    (member : group ∈ catalog.groups)
    (grouped : ∀ snapshot ∈ group.snapshots, snapshot.artifact = group.name)
    {position : Nat} {snapshot : Snapshot}
    (placed : group.snapshots[position]? = some snapshot) :
    files.LinksTo (snapshot.destination generator.settings.output) Page.menuLinks
      ((group.snapshots.eraseIdx position).map fun other =>
        other.destination generator.settings.output) := by
  have jobMember := Catalog.mem_jobs_of_placed member placed
  obtain ⟨location, leads⟩ := hasSite.leads_page jobMember
  obtain ⟨sections, read⟩ := hasSite.pages _ jobMember
  refine linksTo read (Page.menuLinks_renderRevision _) ?_ ?_
  · intro other listed
    have sameArtifact : other.artifact = snapshot.artifact :=
      (grouped other (List.mem_of_mem_eraseIdx listed)).trans
        (grouped snapshot (List.mem_of_getElem? placed)).symm
    exact locate_beside_pageName leads snapshot.isName_pageName sameArtifact
  · intro other listed
    exact hasSite.exists_readText_page member (List.mem_of_mem_eraseIdx listed)

theorem page_linksTo_stylesheet (hasSite : HasSite generator catalog files)
    (isName : Path.IsName generator.settings.stylesheet) {group : Group}
    (member : group ∈ catalog.groups) {position : Nat} {snapshot : Snapshot}
    (placed : group.snapshots[position]? = some snapshot)
    (named : Path.IsName snapshot.artifact) :
    files.LinksTo (snapshot.destination generator.settings.output)
      Page.stylesheetLinks
      [generator.settings.output.join ⟨generator.settings.stylesheet⟩] := by
  have jobMember := Catalog.mem_jobs_of_placed member placed
  obtain ⟨location, leads⟩ := hasSite.leads_page jobMember
  obtain ⟨sections, read⟩ := hasSite.pages _ jobMember
  exact hasSite.linksTo_stylesheet_above isName named snapshot.isName_pageName leads
    read (Page.stylesheetLinks_renderRevision _)

end HasSite

/-- After a run that succeeds no link is broken and no page is left out, if the
stylesheet has a plain name and the files of the site are at different places.  The
landing page links to the index of each artifact, the index to the page of each
snapshot of its group, and the menu of a page to those of the other snapshots, all in
the order of the catalog.  All pages link to the stylesheet. -/
theorem generate_links_site (generator : Generator) (before after : Workspace)
    (report : SiteReport)
    (succeeded : generator.generate.run before = (.ok report, after))
    (isName : Path.IsName generator.settings.stylesheet) :
    ∃ snapshots, generator.snapshotsOf before.files = .ok snapshots ∧
      let catalog := Catalog.ofSnapshots snapshots
      let output := generator.settings.output
      let landing := output.join "index.html"
      let index := fun group : Group => (output.join ⟨group.name⟩).join "index.html"
      let page := fun snapshot : Snapshot => snapshot.destination output
      let stylesheet := output.join ⟨generator.settings.stylesheet⟩
      report.pages = (catalog.groups.flatMap fun group => group.snapshots.map page) ∧
      (((sitePaths generator.settings catalog).map after.files.locate).Nodup →
        after.files.LinksTo landing Page.itemLinks (catalog.groups.map index) ∧
        after.files.LinksTo landing Page.stylesheetLinks [stylesheet] ∧
        ∀ group ∈ catalog.groups,
          after.files.LinksTo (index group) Page.itemLinks
            (group.snapshots.map page) ∧
          after.files.LinksTo (index group) Page.stylesheetLinks [stylesheet] ∧
          ∀ position snapshot, group.snapshots[position]? = some snapshot →
            after.files.LinksTo (page snapshot) Page.menuLinks
              ((group.snapshots.eraseIdx position).map page) ∧
            after.files.LinksTo (page snapshot) Page.stylesheetLinks
              [stylesheet]) := by
  obtain ⟨snapshots, log, read, published⟩ := exists_publish_of_generate succeeded
  obtain ⟨middle, wroteSite, wrotePages, _⟩ := exists_site_of_publish published
  refine ⟨snapshots, read, ?_, ?_⟩
  · rw [pages_eq_of_runsEach wrotePages, Catalog.jobs, List.map_flatMap]
    refine List.flatMap_congr fun group _ => ?_
    rw [← group.map_snapshot_jobs, List.map_map]
    rfl
  · intro distinct
    have hasSite := hasSite_of_run wroteSite wrotePages distinct
    have named :
        ∀ group ∈ (Catalog.ofSnapshots snapshots).groups,
          Path.IsName group.name := fun group member =>
      isName_group read member
    refine ⟨hasSite.landing_linksTo named, hasSite.landing_linksTo_stylesheet isName,
      fun group member => ?_⟩
    have grouped :
        ∀ snapshot ∈ group.snapshots, snapshot.artifact = group.name :=
      fun snapshot listed => ((Catalog.mem_group_iff member).mp listed).2
    refine ⟨hasSite.index_linksTo member grouped,
      hasSite.index_linksTo_stylesheet isName member (named group member),
      fun position snapshot placed => ⟨?_, ?_⟩⟩
    · exact hasSite.page_linksTo member grouped placed
    · have artifactIsName : Path.IsName snapshot.artifact := by
        rw [grouped snapshot (List.mem_of_getElem? placed)]
        exact named group member
      exact hasSite.page_linksTo_stylesheet isName member placed artifactIsName

/-- Two snapshots of one date, in an artifact whose name is escaped in the links. -/
theorem generate_links_site_two :
    let header := "# Commit: 1\n# CommitDate: Jan 2 2020\n# SourceFile: x.py\n" ++
      "# SourceLink: l\n# DocAuthor: Ada\n"
    let files : FileSystem :=
      { entries :=
          [(["in"], .directory), (["in", "a&b"], .directory),
            (["in", "a&b", "x.py"], .file (.text header)),
            (["in", "a&b", "y.py"], .file (.text header))] }
    let generator : Generator :=
      { settings := { input := "in", output := "out" }
        highlighter := fun _ code => .ok (Highlight.renderSpans code [])
        markdown := Markdown.toHtml }
    ∃ after,
      generator.generate.run ⟨files, []⟩ =
        (.ok ⟨1, ["out/a&b/x.html", "out/a&b/y.html"]⟩, after) ∧
      after.files.LinksTo "out/index.html" Page.itemLinks ["out/a&b/index.html"] ∧
      after.files.LinksTo "out/a&b/index.html" Page.itemLinks
        ["out/a&b/x.html", "out/a&b/y.html"] ∧
      after.files.LinksTo "out/a&b/y.html" Page.menuLinks ["out/a&b/x.html"] ∧
      after.files.LinksTo "out/a&b/y.html" Page.stylesheetLinks
        ["out/lazylit.css"] := by
  intro header files generator
  let snapshot (path : Path) : Snapshot :=
    ⟨"a&b", "1", ⟨2020, 1, 2⟩, "Jan 2 2020", "x.py", "l", "Ada", path, 5⟩
  let catalog : Catalog :=
    ⟨[⟨"a&b", [snapshot "in/a&b/x.py", snapshot "in/a&b/y.py"]⟩]⟩
  have listed (first second : Text) :
      InputFile.discover
          { entries :=
              [(["in"], .directory), (["in", "a&b"], .directory),
                (["in", "a&b", "x.py"], .file (.text first)),
                (["in", "a&b", "y.py"], .file (.text second))] } "in" =
        .ok [⟨"a&b", "in/a&b/x.py"⟩, ⟨"a&b", "in/a&b/y.py"⟩] := by
    change Except.ok (InputFile.below _ ["in"] "in") = _
    cbv
  have catalogEq :
      Catalog.ofSnapshots [snapshot "in/a&b/x.py", snapshot "in/a&b/y.py"] =
        catalog := by
    dsimp only [catalog, snapshot]
    cbv
  obtain ⟨read, generated⟩ :=
    @run_generate_of_stages generator files _
      [snapshot "in/a&b/x.py", snapshot "in/a&b/y.py"] catalog (listed _ _)
      (by decide +kernel) catalogEq []
  have outcomeEq :
      (generator.generate.run ⟨files, []⟩).1 =
        .ok ⟨1, ["out/a&b/x.html", "out/a&b/y.html"]⟩ := by
    rw [generated]
    exact eq_ok_of_toOption (by decide +kernel)
  have located :
      (sitePaths generator.settings catalog).map
          (generator.generate.run ⟨files, []⟩).2.files.locate =
        [.ok ["out", ".nojekyll"], .ok ["out", "lazylit.css"],
          .ok ["out", "index.html"], .ok ["out", "a&b", "index.html"],
          .ok ["out", "a&b", "x.html"], .ok ["out", "a&b", "y.html"]] := by
    rw [generated]
    decide +kernel
  have succeeded :
      generator.generate.run ⟨files, []⟩ =
        (.ok ⟨1, ["out/a&b/x.html", "out/a&b/y.html"]⟩,
          (generator.generate.run ⟨files, []⟩).2) :=
    Work.run_of_outcome outcomeEq
  generalize (generator.generate.run ⟨files, []⟩).2 = after at succeeded located
  obtain ⟨snapshots, snapshotsRead, _, links⟩ :=
    generate_links_site generator ⟨files, []⟩ after _ succeeded (by decide +kernel)
  rw [read, Except.ok.injEq] at snapshotsRead
  subst snapshotsRead
  dsimp only at links
  rw [catalogEq, located] at links
  obtain ⟨landing, _, groups⟩ := links (by decide +kernel)
  obtain ⟨index, _, pages⟩ := groups _ List.mem_cons_self
  obtain ⟨menu, stylesheet⟩ := pages 1 _ rfl
  exact ⟨after, succeeded, landing, index, menu, stylesheet⟩

end Generator

end Marginalia
