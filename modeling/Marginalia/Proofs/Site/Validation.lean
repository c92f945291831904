import Marginalia.Markdown.Writer
import Marginalia.Proofs.Site.Work
import Marginalia.Site.Generation

/-!
# Validation before writing

The input files of a run are listed and their headers read before anything is
written.  This first stage changes no file, and its outcome is a function of the
files.  If it fails, the run fails with the same failure and leaves all files as
they are.
-/

namespace Marginalia

/-! ## Reading headers -/

namespace Generator

variable {generator : Generator} {registry : Registry} {files : FileSystem}

def snapshotOf (registry : Registry) (input : InputFile) (files : FileSystem) :
    Except Failure Snapshot := do
  let language ← languageOf registry input.path
  let contents ← (files.readText input.path).mapError (.read input.path)
  Header.parse language input.artifact input.path contents

def snapshotsOf (generator : Generator) (files : FileSystem) :
    Except Failure (List Snapshot) := do
  let inputs ← InputFile.discover files generator.settings.input
  generator.settings.policy.settle
    (inputs.map fun input => snapshotOf generator.registry input files)

theorem reads_announce (generator : Generator) (catalog : Catalog) :
    (generator.announce catalog).Reads fun _ => .ok () := by
  rw [announce]
  split
  · exact (Work.reads_note _ _).bind fun _ => Work.reads_note _ _
  · exact (Work.reads_note _ _).bind fun _ => Work.reads_pure ()

theorem reads_listInputs (directory : Path) :
    (listInputs directory).Reads fun files =>
      InputFile.discover files directory := by
  have reads :=
    Work.reads_files.bind fun files =>
      (Work.reads_lift (InputFile.discover files directory)).bind fun inputs =>
        (Work.reads_note .debug ("Discovered " ++ Text.ofNat inputs.length ++
          " input files in " ++ directory.text)).bind fun _ =>
            Work.reads_pure inputs
  apply reads.congr
  intro files
  rw [ok_bind]
  cases InputFile.discover files directory <;> rfl

theorem reads_readSnapshot (registry : Registry) (input : InputFile) :
    (readSnapshot registry input).Reads (snapshotOf registry input) :=
  (Work.reads_lift _).bind fun language =>
    (Work.reads_readText input.path).bind fun contents =>
      (Work.reads_report (Header.log language input.path contents)).bind
        fun _ => Work.reads_lift _

theorem reads_readInputs (generator : Generator) :
    generator.readInputs.Reads generator.snapshotsOf :=
  (reads_listInputs _).bind fun inputs =>
    FailurePolicy.reads_forEach (reads_readSnapshot generator.registry)
      generator.settings.policy inputs

/-- If the first stage fails, the run fails and changes no file. -/
theorem run_generate_of_error {workspace : Workspace} {failure : Failure}
    (failed : generator.snapshotsOf workspace.files = .error failure) :
    ∃ log, generator.generate.run workspace =
      (.error failure, { workspace with log }) := by
  obtain ⟨log, ran⟩ := reads_readInputs generator workspace
  rw [generate, Work.run_bind, ran, failed]
  exact ⟨log, rfl⟩

/-- If the first stage succeeds, the run goes on with the second one and with what
the first one has logged. -/
theorem run_generate_of_ok {workspace : Workspace} {snapshots : List Snapshot}
    (read : generator.snapshotsOf workspace.files = .ok snapshots) :
    generator.generate.run workspace =
      (generator.publish snapshots).run
        { workspace with log := (generator.readInputs.run workspace).2.log } := by
  obtain ⟨log, ran⟩ := reads_readInputs generator workspace
  rw [generate, Work.run_bind, ran, read]

/-- The first stage succeeds exactly if the input files can be listed and all of
them read as the snapshots. -/
theorem snapshotsOf_eq_ok_iff {snapshots : List Snapshot} :
    generator.snapshotsOf files = .ok snapshots ↔
      ∃ inputs,
        InputFile.discover files generator.settings.input = .ok inputs ∧
        inputs.map (fun input => snapshotOf generator.registry input files) =
          snapshots.map .ok := by
  rw [snapshotsOf, bind_eq_ok_iff]
  exact exists_congr fun inputs =>
    and_congr_right fun _ => FailurePolicy.settle_eq_ok_iff

/-- A run taken stage by stage: the input files are listed, each of them is read,
and the snapshots are grouped. -/
theorem run_generate_of_stages {inputs : List InputFile}
    {snapshots : List Snapshot} {catalog : Catalog}
    (listed : InputFile.discover files generator.settings.input = .ok inputs)
    (read : inputs.map (fun input =>
        (snapshotOf generator.registry input files).toOption) =
      snapshots.map some)
    (grouped : Catalog.ofSnapshots snapshots = catalog) (log : Log) :
    generator.snapshotsOf files = .ok snapshots ∧
      generator.generate.run ⟨files, log⟩ =
        (generator.announce catalog >>= fun _ => generator.writeSite catalog).run
          ⟨files, (generator.readInputs.run ⟨files, log⟩).2.log⟩ := by
  have readAll : generator.snapshotsOf files = .ok snapshots :=
    snapshotsOf_eq_ok_iff.mpr ⟨inputs, listed, map_eq_map_ok_of_toOption read⟩
  refine ⟨readAll, ?_⟩
  rw [@run_generate_of_ok generator ⟨files, log⟩ _ readAll, publish, grouped]

theorem snapshotOf_eq_ok_iff {input : InputFile} {snapshot : Snapshot} :
    snapshotOf registry input files = .ok snapshot ↔
      ∃ language contents,
        registry.ofPath? input.path = some language ∧
        files.readText input.path = .ok contents ∧
        Header.parse language input.artifact input.path contents =
          .ok snapshot := by
  rw [snapshotOf, bind_eq_ok_iff, languageOf]
  cases registry.ofPath? input.path with
  | none =>
      simp
  | some language =>
      cases files.readText input.path <;> simp [Except.mapError]

/-- A snapshot names the file that it was read from. -/
theorem origin_of_snapshotOf {input : InputFile} {snapshot : Snapshot}
    (read : snapshotOf registry input files = .ok snapshot) :
    snapshot.artifact = input.artifact ∧ snapshot.docFile = input.path := by
  obtain ⟨language, contents, _, _, parsed⟩ := snapshotOf_eq_ok_iff.mp read
  rw [Header.parse] at parsed
  split at parsed
  · cases parsed
  · split at parsed
    · next header _ other complete =>
        cases parsed
        simp only [Header.snapshot?, Option.bind_eq_bind, Option.bind_eq_some_iff,
          Option.some.injEq] at complete
        obtain ⟨_, _, _, _, _, _, _, _, _, _, rfl⟩ := complete
        exact ⟨rfl, rfl⟩
    · cases parsed

end Generator

/-! ## Rejected input files -/

/-- Why the header of an input file cannot be read. -/
inductive InputFile.Rejected (registry : Registry) (files : FileSystem)
    (input : InputFile) : Prop
  | unknownLanguage : registry.ofPath? input.path = none →
      Rejected registry files input
  | unreadable {fault : FileFault} :
      files.readText input.path = .error fault → Rejected registry files input
  | badHeader {language : Language} {contents : Text} {failure : Failure} :
      registry.ofPath? input.path = some language →
      files.readText input.path = .ok contents →
      Header.parse language input.artifact input.path contents =
        .error failure →
      Rejected registry files input

theorem InputFile.Rejected.snapshotOf_ne_ok {registry : Registry}
    {files : FileSystem} {input : InputFile}
    (rejected : input.Rejected registry files) (snapshot : Snapshot) :
    Generator.snapshotOf registry input files ≠ .ok snapshot := by
  rw [Ne, Generator.snapshotOf_eq_ok_iff]
  rintro ⟨language, contents, known, read, parsed⟩
  cases rejected with
  | unknownLanguage unknown =>
      rw [unknown] at known
      cases known
  | unreadable unread =>
      rw [unread] at read
      cases read
  | badHeader known' read' failed =>
      rw [known] at known'
      rw [read] at read'
      cases known'
      cases read'
      rw [parsed] at failed
      cases failed

theorem InputFile.discover_of_not_directory {files : FileSystem}
    {directory : Path} (missing : files.isDirectory directory = false) :
    InputFile.discover files directory = .error (.missingInput directory) := by
  have notFound :
      ((files.locate directory).toOption.filter fun location =>
        files.entry? location = some .directory) = none := by
    rw [Option.filter_eq_none_iff]
    intro location located isDirectory
    rw [← Bool.not_eq_true, FileSystem.isDirectory_iff] at missing
    cases found : files.locate directory with
    | error fault =>
        rw [found] at located
        cases located
    | ok place =>
        rw [found] at located
        cases located
        exact missing ⟨_, found, of_decide_eq_true isDirectory⟩
  rw [discover, notFound]

namespace Generator

/-- A run fails and changes no file if the input directory is missing or if one
of the input files has no known language, is no text or has a bad header. -/
theorem generate_unchanged_of_rejected (generator : Generator)
    (workspace : Workspace)
    (invalid :
      workspace.files.isDirectory generator.settings.input = false ∨
      ∃ inputs,
        InputFile.discover workspace.files generator.settings.input =
          .ok inputs ∧
        ∃ input ∈ inputs, input.Rejected generator.registry workspace.files) :
    ∃ failure after,
      generator.generate.run workspace = (.error failure, after) ∧
      after.files = workspace.files := by
  have failed :
      ∃ failure, generator.snapshotsOf workspace.files = .error failure := by
    cases outcome : generator.snapshotsOf workspace.files with
    | error failure =>
        exact ⟨failure, rfl⟩
    | ok snapshots =>
        -- All input files would have been read, the rejected one among them.
        exfalso
        obtain ⟨inputs, listed, read⟩ := snapshotsOf_eq_ok_iff.mp outcome
        rcases invalid with missing | ⟨others, othersListed, input, member, rejected⟩
        · rw [InputFile.discover_of_not_directory missing] at listed
          cases listed
        · rw [othersListed] at listed
          cases listed
          have outcomeMember :
              snapshotOf generator.registry input workspace.files ∈
                snapshots.map .ok := by
            rw [← read]
            exact List.mem_map.mpr ⟨input, member, rfl⟩
          obtain ⟨snapshot, _, snapshotEq⟩ := List.mem_map.mp outcomeMember
          exact rejected.snapshotOf_ne_ok snapshot snapshotEq.symm
  obtain ⟨failure, failed⟩ := failed
  obtain ⟨log, ran⟩ := run_generate_of_error failed
  exact ⟨failure, { workspace with log }, ran, rfl⟩

/-- A bad commit date in the second artifact, after a good file in the first. -/
theorem generate_unchanged_of_rejected_date :
    let good := "# Commit: 1\n# CommitDate: Jan 2 2020\n# SourceFile: x.py\n" ++
      "# SourceLink: l\n# DocAuthor: Ada\nx = 1\n"
    let files : FileSystem :=
      { entries :=
          [(["in"], .directory), (["in", "a"], .directory),
            (["in", "a", "x.py"], .file (.text good)),
            (["in", "b"], .directory),
            (["in", "b", "y.py"], .file (.text "# CommitDate: Jan 32 2020\n"))] }
    let generator : Generator :=
      { settings := { input := "in", policy := .collectAll }
        highlighter := fun _ code => .ok code
        markdown := Markdown.toHtml }
    ∃ failure after,
      generator.generate.run ⟨files, []⟩ = (.error failure, after) ∧
      after.files = files := by
  intro good files generator
  have artifacts :
      InputFile.visibleNames (files.children ["in"]) Entry.isDirectory =
        (["a", "b"] : List Text) :=
    List.mergeSort_of_pairwise (by decide)
  have first :
      InputFile.visibleNames (files.children ["in", "a"]) (!·.isDirectory) =
        (["x.py"] : List Text) :=
    List.mergeSort_singleton _
  have second :
      InputFile.visibleNames (files.children ["in", "b"]) (!·.isDirectory) =
        (["y.py"] : List Text) :=
    List.mergeSort_singleton _
  have listed :
      InputFile.discover files "in" =
        .ok [⟨"a", "in/a/x.py"⟩, ⟨"b", "in/b/y.py"⟩] := by
    change Except.ok (InputFile.below files ["in"] "in") = _
    rw [InputFile.below, artifacts]
    simp only [List.flatMap_cons, List.flatMap_nil, List.cons_append,
      List.nil_append, first, second]
    rfl
  obtain ⟨failure, failed⟩ :
      ∃ failure, Header.parse ⟨"python", "#", ["py"]⟩ "b" "in/b/y.py"
        "# CommitDate: Jan 32 2020\n" = .error failure :=
    exists_error_of_isOk (by decide +kernel)
  exact generate_unchanged_of_rejected generator ⟨files, []⟩ <| Or.inr
    ⟨_, listed, ⟨"b", "in/b/y.py"⟩, by simp,
      .badHeader (by decide +kernel) (by decide +kernel) failed⟩

end Generator

end Marginalia
