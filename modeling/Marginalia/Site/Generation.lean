import Marginalia.Body
import Marginalia.Catalog
import Marginalia.Header
import Marginalia.Language.Registry
import Marginalia.Page.Asset
import Marginalia.Page.Index
import Marginalia.Page.Revision
import Marginalia.Settings.Basic
import Marginalia.Site.Discovery
import Marginalia.Site.Work

/-!
# Generation of a site

All headers are read before anything is written. Then come the files of the
site as a whole and the index of each artifact, and last the page of each
snapshot.
-/

namespace Marginalia

/-- What a run has made. -/
structure SiteReport where
  artifacts : Nat
  /-- The pages of the snapshots, in the order of the catalog. -/
  pages : List Path
  deriving DecidableEq

/-- A file of a site: where it is written, and what it holds. -/
structure SiteFile where
  path : Path
  text : Text
  deriving DecidableEq

def SiteFile.write (file : SiteFile) : Work Unit :=
  Work.writeText file.path file.text

/-- What a run works with: its settings, the number of processors, the known
languages, the highlighter and the renderer of prose. -/
structure Generator where
  settings : Settings := {}
  processors : Nat := 1
  registry : Registry := Registry.builtin
  highlighter : Highlighter
  markdown : MarkdownRenderer

namespace Generator

/-! ## Reading -/

def listInputs (directory : Path) : Work (List InputFile) := do
  let inputs ← (InputFile.discover (← Work.files) directory : Except Failure _)
  Work.note .debug ("Discovered " ++ Text.ofNat inputs.length ++
    " input files in " ++ directory.text)
  return inputs

def languageOf (registry : Registry) (path : Path) : Except Failure Language :=
  match registry.ofPath? path with
  | some language => .ok language
  | none => .error (.unsupportedLanguage path)

def readSnapshot (registry : Registry) (input : InputFile) : Work Snapshot := do
  let language ← (languageOf registry input.path : Except Failure _)
  let contents ← Work.readText input.path
  Work.report (Header.log language input.path contents)
  (Header.parse language input.artifact input.path contents : Except Failure _)

def readHeaders (generator : Generator) (inputs : List InputFile) :
    Work (List Snapshot) :=
  generator.settings.policy.forEach inputs (readSnapshot generator.registry)

/-- The first stage of a run: list the input files and read their headers. -/
def readInputs (generator : Generator) : Work (List Snapshot) := do
  generator.readHeaders (← listInputs generator.settings.input)

/-! ## The site as a whole -/

/-- The files of the site that belong to no artifact. -/
def sharedFiles (settings : Settings) (catalog : Catalog) : List SiteFile :=
  (if settings.writesMarker then
      [⟨settings.output.join ⟨Page.markerName⟩, []⟩]
    else []) ++
    [⟨settings.output.join ⟨settings.stylesheet⟩, Page.stylesheet⟩,
      ⟨settings.output.join "index.html",
        Page.renderLanding catalog settings.stylesheet⟩]

def artifactIndex (settings : Settings) (group : Group) : SiteFile :=
  ⟨(settings.output.join ⟨group.name⟩).join "index.html",
    Page.renderArtifactIndex group settings.stylesheet⟩

def writeArtifactIndex (settings : Settings) (group : Group) : Work Unit := do
  let index := artifactIndex settings group
  index.write
  Work.note .debug ("Wrote " ++ index.path.text)

/-- Write the files of the site as a whole and the index of each artifact. -/
def writeSiteFiles (settings : Settings) (catalog : Catalog) : Work Unit := do
  Work.makeDirectories settings.output
  (sharedFiles settings catalog).forM SiteFile.write
  catalog.groups.forM (writeArtifactIndex settings)

/-! ## Pages -/

/-- The sections of an annotated file, and the number of dividers found
between them. -/
def sectionsOf (generator : Generator) (language : Language)
    (snapshot : Snapshot) (contents : Text) :
    Except Failure (List Section × Nat) :=
  match Body.highlight language generator.highlighter generator.markdown
      (Section.parse language contents snapshot.firstCodeLine) with
  | .ok found => .ok found
  | .error fault => .error (.highlight snapshot.docFile fault)

/-- Read the annotated file of a snapshot and render its page. -/
def readPage (generator : Generator) (job : PageJob) : Work Text := do
  let source := job.snapshot.docFile
  let language ← (languageOf generator.registry source : Except Failure _)
  -- The file is read anew: only its header was kept from the first reading.
  let contents ← Work.readText source
  let (sections, found) ←
    (generator.sectionsOf language job.snapshot contents : Except Failure _)
  let expected := sections.length - 1
  if found < expected then
    Work.note .warn (source.text ++ ": found " ++ Text.ofNat found ++ " of " ++
      Text.ofNat expected ++ " section dividers after highlighting")
  return Page.renderRevision {
    snapshot := job.snapshot
    others := job.others
    sections
    stylesheetName := generator.settings.stylesheet }

def storePage (generator : Generator) (job : PageJob) (text : Text) :
    Work Path := do
  let destination := job.snapshot.destination generator.settings.output
  Work.writeText destination text
  Work.note .info (job.snapshot.docFile.text ++ " -> " ++ destination.text)
  return destination

def writePage (generator : Generator) (job : PageJob) : Work Path := do
  generator.storePage job (← generator.readPage job)

def writePages (generator : Generator) (catalog : Catalog) :
    Work (List Path) := do
  let jobs := catalog.jobs
  -- The number of workers is only reported: pages are written in the order of
  -- the jobs.
  let workers := generator.settings.workers generator.processors
  Work.note .debug ("Rendering " ++ Text.ofNat jobs.length ++ " pages on " ++
    Text.ofNat workers ++ " workers")
  generator.settings.policy.forEach jobs generator.writePage

/-! ## The run -/

/-- Say how much there is to publish. -/
def announce (generator : Generator) (catalog : Catalog) : Work Unit := do
  Work.note .info ("Found " ++ Text.ofNat catalog.snapshotCount ++
    " snapshots of " ++ Text.ofNat catalog.artifactCount ++ " artifacts")
  if catalog.isEmpty then
    Work.note .warn ("No snapshots found in " ++
      generator.settings.input.text ++ ", writing an empty site")

def writeSite (generator : Generator) (catalog : Catalog) : Work SiteReport := do
  writeSiteFiles generator.settings catalog
  let pages ← generator.writePages catalog
  return ⟨catalog.artifactCount, pages⟩

/-- The second stage of a run: write the site of some snapshots. -/
def publish (generator : Generator) (snapshots : List Snapshot) :
    Work SiteReport := do
  let catalog := Catalog.ofSnapshots snapshots
  generator.announce catalog
  generator.writeSite catalog

/-- Read all headers and write the site. -/
def generate (generator : Generator) : Work SiteReport := do
  generator.publish (← generator.readInputs)

end Generator

end Marginalia
