import Marginalia.Proofs.Site.Naming
import Marginalia.Proofs.Site.Publication

/-!
# Pages in any order

Workers take the jobs of a catalog in some order, and the outcomes are put back
in the order of the jobs.  No page is written over the source of another one,
and no directory is made on the way, so each job ends as if it were done alone.
The order makes no difference to the outcome or to the files.
-/

namespace Marginalia

namespace Generator

open FileSystem (Fills)

variable {generator : Generator} {jobs : List PageJob} {job other : PageJob}
  {start files : FileSystem} {place : PageJob → Location}

/-! ## One page -/

/-- The page that a job writes at a place, as a function of the files. -/
def pageAt (generator : Generator) (job : PageJob) (location : Location)
    (files : FileSystem) : Except Failure Text := do
  let text ← generator.pageOf job files
  if files.entry? location = some .directory then
    throw (.write (job.snapshot.destination generator.settings.output)
      .isDirectory)
  return text

theorem pageAt_eq_ok_iff {location : Location} {text : Text} :
    generator.pageAt job location files = .ok text ↔
      generator.pageOf job files = .ok text ∧
        files.entry? location ≠ some .directory := by
  rw [pageAt]
  cases generator.pageOf job files with
  | error failure => simp
  | ok page =>
      by_cases standing : files.entry? location = some .directory <;>
        simp [standing]

/-- What is written when the destination leads to a place. -/
theorem run_writePage_of_leads {location : Location} {workspace : Workspace}
    (leads : workspace.files.Leads
      (job.snapshot.destination generator.settings.output) location) :
    ∃ log, (generator.writePage job).run workspace =
      match generator.pageAt job location workspace.files with
      | .error failure => (.error failure, { workspace with log })
      | .ok text => (.ok (job.snapshot.destination generator.settings.output),
          ⟨workspace.files.put location (.file (.text text)), log⟩) := by
  obtain ⟨log, read⟩ := reads_readPage generator job workspace
  rw [writePage, Work.run_bind, read, pageAt]
  dsimp only
  cases generator.pageOf job workspace.files with
  | error failure =>
      exact ⟨log, rfl⟩
  | ok text =>
      have wrote :=
        @Work.run_write_of_leads _ _ { workspace with log } leads (.text text)
      dsimp only
      rw [storePage, Work.run_bind, Work.writeText, wrote]
      by_cases standing : workspace.files.entry? location = some .directory
      · refine ⟨log, ?_⟩
        simp [standing]
      · simp only [standing, if_false]
        exact ⟨_, rfl⟩

/-! ## Many pages -/

/-- The jobs can be done: each destination leads to a place of its own, and
none of these places is the source of a job. -/
structure Ready (generator : Generator) (jobs : List PageJob)
    (start : FileSystem) (place : PageJob → Location) : Prop where
  leads : ∀ job ∈ jobs, start.Leads
    (job.snapshot.destination generator.settings.output) (place job)
  source : ∀ job ∈ jobs, ∃ location contents,
    start.locate job.snapshot.docFile = .ok location ∧
    start.entry? location = some (.file contents) ∧
    location ∉ jobs.map place
  distinct : (jobs.map place).Nodup

/-- Add the page of a job, as it is read from the files at the start. -/
def addPage (generator : Generator) (start : FileSystem)
    (place : PageJob → Location) (files : FileSystem) (job : PageJob) :
    FileSystem :=
  match generator.pageAt job (place job) start with
  | .ok text => files.put (place job) (.file (.text text))
  | .error _ => files

/-- The outcome of a job, as it is read from the files at the start. -/
def outcomeOf (generator : Generator) (start : FileSystem)
    (place : PageJob → Location) (job : PageJob) : Except Failure Path :=
  (generator.pageAt job (place job) start).map fun _ =>
    job.snapshot.destination generator.settings.output

theorem outcomeOf_eq_ok_iff {page : Path} :
    generator.outcomeOf start place job = .ok page ↔
      page = job.snapshot.destination generator.settings.output ∧
        ∃ text, generator.pageAt job (place job) start = .ok text := by
  rw [outcomeOf]
  cases generator.pageAt job (place job) start with
  | error failure => simp [Except.map]
  | ok text => simp [Except.map, eq_comm]

theorem fills_addPage (generator : Generator) (member : job ∈ jobs)
    (fills : Fills (jobs.map place) start files) :
    Fills (jobs.map place) start (generator.addPage start place files job) := by
  rw [addPage]
  split
  · exact fills.put (List.mem_map.mpr ⟨job, member, rfl⟩) _
  · exact fills

theorem fills_foldl_addPage (generator : Generator) {others : List PageJob}
    (members : ∀ job ∈ others, job ∈ jobs)
    (fills : Fills (jobs.map place) start files) :
    Fills (jobs.map place) start
      (others.foldl (generator.addPage start place) files) := by
  induction others generalizing files with
  | nil =>
      exact fills
  | cons job others inductionHypothesis =>
      exact inductionHypothesis
        (fun other later => members other (List.mem_cons_of_mem job later))
        (fills_addPage generator (members job List.mem_cons_self) fills)

/-- Other pages make no difference to a job. -/
theorem Ready.pageAt_eq (ready : generator.Ready jobs start place)
    (member : job ∈ jobs) (fills : Fills (jobs.map place) start files) :
    generator.pageAt job (place job) files =
      generator.pageAt job (place job) start := by
  obtain ⟨location, contents, located, standing, outside⟩ :=
    ready.source job member
  have samePage : generator.pageOf job files = generator.pageOf job start :=
    pageOf_congr (fills.readText_eq located standing outside)
  rw [pageAt, pageAt, samePage]
  simp only [fills.directory_iff]

/-- A step of a schedule: whatever pages are there already, the outcome of a job
is its own, and its page is added. -/
theorem Ready.run_writePage (ready : generator.Ready jobs start place)
    (member : job ∈ jobs) {workspace : Workspace}
    (fills : Fills (jobs.map place) start workspace.files) :
    ∃ log, (generator.writePage job).run workspace =
      (generator.outcomeOf start place job,
        ⟨generator.addPage start place workspace.files job, log⟩) := by
  obtain ⟨log, ran⟩ :=
    run_writePage_of_leads ((ready.leads job member).grow fills.toGrows)
  refine ⟨log, ?_⟩
  rw [ran, ready.pageAt_eq member fills, outcomeOf, addPage]
  cases generator.pageAt job (place job) start <;> rfl

/-- A schedule: the outcomes are those of the jobs, and all pages are added. -/
theorem Ready.runEach (ready : generator.Ready jobs start place) {α : Type}
    (jobOf : α → PageJob) {items : List α}
    (members : ∀ item ∈ items, jobOf item ∈ jobs) {workspace : Workspace}
    (fills : Fills (jobs.map place) start workspace.files) :
    ∃ log, FailurePolicy.collectAll.runEach
        (fun item => generator.writePage (jobOf item)) items workspace =
      (items.map fun item => generator.outcomeOf start place (jobOf item),
        ⟨(items.map jobOf).foldl (generator.addPage start place) workspace.files,
          log⟩) := by
  -- The induction is on the jobs still to be done, whatever is there already.
  induction items generalizing workspace with
  | nil =>
      exact ⟨workspace.log, rfl⟩
  | cons item items inductionHypothesis =>
      have member := members item List.mem_cons_self
      obtain ⟨log, step⟩ := ready.run_writePage member fills
      obtain ⟨lastLog, rest⟩ :=
        @inductionHypothesis
          (fun other later => members other (List.mem_cons_of_mem item later))
          ⟨generator.addPage start place workspace.files (jobOf item), log⟩
          (fills_addPage generator member fills)
      have firstRun :=
        @FailurePolicy.runEach_collectAll_cons α Path
          (fun item => generator.writePage (jobOf item)) _ _ item _ step items
      rw [rest] at firstRun
      exact ⟨lastLog, firstRun⟩

theorem Ready.addPage_comm (ready : generator.Ready jobs start place)
    (member : job ∈ jobs) (otherMember : other ∈ jobs) (files : FileSystem) :
    generator.addPage start place (generator.addPage start place files job) other =
      generator.addPage start place (generator.addPage start place files other)
        job := by
  -- One place is one job, and at different places the writes commute.
  by_cases same : place job = place other
  · rw [List.inj_on_of_nodup_map ready.distinct member otherMember same]
  · simp only [addPage]
    split <;> split
    · exact FileSystem.put_comm same files _ _
    all_goals rfl

theorem Ready.foldl_addPage_perm (ready : generator.Ready jobs start place)
    {first second : List PageJob} (order : first.Perm second)
    (members : ∀ job ∈ first, job ∈ jobs) (files : FileSystem) :
    first.foldl (generator.addPage start place) files =
      second.foldl (generator.addPage start place) files :=
  order.foldl_eq' (fun job member other otherMember files =>
    ready.addPage_comm (members job member) (members other otherMember) files)
    files

theorem entry?_foldl_addPage {location : Location}
    (elsewhere : ∀ job ∈ jobs, place job ≠ location) :
    FileSystem.entry? (jobs.foldl (generator.addPage start place) files)
        location = files.entry? location := by
  induction jobs generalizing files with
  | nil =>
      rfl
  | cons job jobs inductionHypothesis =>
      rw [List.foldl_cons, inductionHypothesis fun other later =>
        elsewhere other (List.mem_cons_of_mem job later), addPage]
      split
      · exact FileSystem.entry?_put_of_ne
          (elsewhere job List.mem_cons_self).symm _ _
      · rfl

/-- In the end the place of a job has its page, or what stood there if the job
failed. -/
theorem Ready.entry?_place (ready : generator.Ready jobs start place)
    (member : job ∈ jobs) :
    FileSystem.entry? (jobs.foldl (generator.addPage start place) start)
        (place job) =
      match generator.pageAt job (place job) start with
      | .ok text => some (.file (.text text))
      | .error _ => start.entry? (place job) := by
  have jobsDistinct : jobs.Nodup := List.Nodup.of_map place ready.distinct
  have elsewhere : ∀ other ∈ jobs.erase job, place other ≠ place job := by
    intro other otherMember same
    obtain ⟨different, given⟩ := jobsDistinct.mem_erase_iff.mp otherMember
    exact different (List.inj_on_of_nodup_map ready.distinct given member same)
  -- The job is done first, and all others are elsewhere.
  rw [ready.foldl_addPage_perm (List.perm_cons_erase member) (fun _ => id),
    List.foldl_cons, entry?_foldl_addPage elsewhere, addPage]
  split
  · next page =>
      exact FileSystem.entry?_put_self
        ((ready.leads job member).admits (pageAt_eq_ok_iff.mp page).2) _
  · rfl

theorem Ready.leads_foldl_addPage (ready : generator.Ready jobs start place)
    (member : job ∈ jobs) :
    FileSystem.Leads (jobs.foldl (generator.addPage start place) start)
      (job.snapshot.destination generator.settings.output) (place job) :=
  (ready.leads job member).grow
    (fills_foldl_addPage generator (fun _ => id)
      (Fills.refl (jobs.map place) start)).toGrows

theorem Ready.find_of_failure (ready : generator.Ready jobs start place)
    (member : job ∈ jobs) {failure : Failure}
    (failed : generator.outcomeOf start place job = .error failure) :
    FileSystem.find (jobs.foldl (generator.addPage start place) start)
        (job.snapshot.destination generator.settings.output) =
      start.find (job.snapshot.destination generator.settings.output) := by
  have standing := ready.entry?_place member
  cases pageEq : generator.pageAt job (place job) start with
  | ok text =>
      rw [outcomeOf_eq_ok_iff.mpr ⟨rfl, text, pageEq⟩] at failed
      cases failed
  | error fault =>
      rw [pageEq] at standing
      rw [FileSystem.find, FileSystem.find,
        (ready.leads_foldl_addPage member).locate,
        (ready.leads job member).locate, ok_bind, ok_bind, standing]

theorem Ready.readText_of_page (ready : generator.Ready jobs start place)
    (member : job ∈ jobs) {text : Text}
    (page : generator.pageAt job (place job) start = .ok text) :
    FileSystem.readText (jobs.foldl (generator.addPage start place) start)
        (job.snapshot.destination generator.settings.output) = .ok text := by
  have standing := ready.entry?_place member
  rw [page] at standing
  exact FileSystem.readText_eq_ok_iff.mpr
    ⟨place job, (ready.leads_foldl_addPage member).locate, standing⟩

end Generator

namespace Generator

variable {generator : Generator} {original : FileSystem} {log : Log}
  {start : Workspace} {snapshots : List Snapshot} {job : PageJob}

/-! ## After the files of the site -/

/-- The index of an artifact is written beside its pages, so that their
destinations lead to places. -/
theorem exists_leads_destination
    (written : (writeSiteFiles generator.settings
      (Catalog.ofSnapshots snapshots)).run ⟨original, log⟩ = (.ok (), start))
    (member : job ∈ (Catalog.ofSnapshots snapshots).jobs) :
    ∃ directory, start.files.Leads
      (job.snapshot.destination generator.settings.output)
      (directory ++ [job.snapshot.pageName]) := by
  obtain ⟨_, group, groupMember, sameName⟩ :=
    Catalog.snapshot_mem_of_mem_jobs member
  obtain ⟨location, indexLeads⟩ :=
    (writesAll_siteFiles written).exists_leads
      (artifactIndex generator.settings group)
      (List.mem_append_right _ (List.mem_map.mpr ⟨group, groupMember, rfl⟩))
  rw [artifactIndex, sameName] at indexLeads
  exact ⟨location.dropLast,
    indexLeads.sibling isName_indexName job.snapshot.isName_pageName⟩

/-- The source of a job is still a file, and its name is not that of a page. -/
theorem exists_source (noPages : generator.registry.ofExtension? "html" = none)
    (read : generator.snapshotsOf original = .ok snapshots)
    (written : (writeSiteFiles generator.settings
      (Catalog.ofSnapshots snapshots)).run ⟨original, log⟩ = (.ok (), start))
    (member : job ∈ (Catalog.ofSnapshots snapshots).jobs) :
    ∃ location contents,
      start.files.locate job.snapshot.docFile = .ok location ∧
      start.files.entry? location = some (.file contents) ∧
      ∀ (snapshot : Snapshot) (directory : Location),
        location ≠ directory ++ [snapshot.pageName] := by
  obtain ⟨inputs, _, inputsRead⟩ := snapshotsOf_eq_ok_iff.mp read
  obtain ⟨input, _, inputRead⟩ :=
    exists_mem_of_map_eq_map_ok inputsRead
      (Catalog.snapshot_mem_of_mem_jobs member).1
  obtain ⟨language, text, known, textRead, _⟩ :=
    snapshotOf_eq_ok_iff.mp inputRead
  rw [← (origin_of_snapshotOf inputRead).2] at known textRead
  obtain ⟨location, located, standing⟩ :=
    FileSystem.readText_eq_ok_iff.mp textRead
  obtain ⟨_, _, grows⟩ := (writesAll_siteFiles written).exists_locations
  obtain ⟨contents, stillStanding⟩ := grows.file location _ standing
  refine ⟨location, contents, grows.locate located, stillStanding, ?_⟩
  rintro snapshot directory rfl
  obtain ⟨name, named, different⟩ := Registry.exists_name_ne_pageName noPages known
  have lastName := FileSystem.getLast?_of_fileName? located standing named
  rw [List.getLast?_concat, Option.some.injEq] at lastName
  exact different snapshot lastName.symm

/-- Destinations that lead to one place are the same. -/
theorem destination_eq_of_leads {files : FileSystem} {output : Path}
    {first second : Snapshot} {location : Location}
    (firstLeads : files.Leads (first.destination output) location)
    (secondLeads : files.Leads (second.destination output) location)
    (firstIsName : Path.IsName first.artifact)
    (secondIsName : Path.IsName second.artifact) :
    first.destination output = second.destination output := by
  obtain ⟨directory, entered, firstEq⟩ :=
    firstLeads.exists_directory firstIsName first.isName_pageName
  obtain ⟨other, otherEntered, secondEq⟩ :=
    secondLeads.exists_directory secondIsName second.isName_pageName
  rw [entered] at otherEntered
  cases otherEntered
  rw [firstEq, List.append_cancel_left_eq] at secondEq
  obtain ⟨sameArtifact, samePage⟩ := List.cons.inj secondEq
  rw [Snapshot.destination, Snapshot.destination, sameArtifact,
    (List.cons.inj samePage).1]

/-- After the files of the site are written, the pages of its catalog can be
written if their destinations are different. -/
theorem exists_ready (noPages : generator.registry.ofExtension? "html" = none)
    (read : generator.snapshotsOf original = .ok snapshots)
    (written : (writeSiteFiles generator.settings
      (Catalog.ofSnapshots snapshots)).run ⟨original, log⟩ = (.ok (), start))
    (distinct : ((Catalog.ofSnapshots snapshots).jobs.map fun job =>
      job.snapshot.destination generator.settings.output).Nodup) :
    ∃ place, generator.Ready (Catalog.ofSnapshots snapshots).jobs start.files
      place := by
  have leads := fun job => @exists_leads_destination _ _ _ _ _ job written
  choose! directory leads using leads
  refine ⟨fun job => directory job ++ [job.snapshot.pageName], leads, ?_, ?_⟩
  · -- The last name of a source is never that of a page.
    intro job member
    obtain ⟨location, contents, located, standing, different⟩ :=
      exists_source noPages read written member
    refine ⟨location, contents, located, standing, ?_⟩
    intro inside
    obtain ⟨other, _, placeEq⟩ := List.mem_map.mp inside
    exact different other.snapshot (directory other) placeEq.symm
  · rw [List.Nodup, List.pairwise_map] at distinct ⊢
    refine distinct.imp_of_mem fun {job other} member otherMember different same => ?_
    have otherLeads := leads other otherMember
    rw [← same] at otherLeads
    exact different (destination_eq_of_leads (leads job member) otherLeads
      (isName_job read member) (isName_job read otherMember))

/-! ## Schedules -/

/-- Put outcomes back in the order of the positions that a schedule gives to its
items. -/
def putBack {α β : Type} (schedule : List (α × Nat)) (outcomes : List β) :
    List β :=
  ((schedule.zip outcomes).mergeSort fun first second =>
    first.1.2 ≤ second.1.2).map Prod.snd

theorem mergeSort_schedule {α : Type} {schedule : List (α × Nat)}
    {items : List α} (order : schedule.Perm items.zipIdx) :
    (schedule.mergeSort fun first second => first.2 ≤ second.2) =
      items.zipIdx := by
  have increasing :
      items.zipIdx.Pairwise fun first second =>
        decide (first.2 ≤ second.2) = true := by
    rw [List.pairwise_iff_getElem]
    intro first second _ _ earlier
    simp only [List.getElem_zipIdx, decide_eq_true_iff]
    omega
  refine List.Perm.eq_of_pairwise ?_
    (List.pairwise_mergeSort (by simp; omega) (by simp; omega) _) increasing
    ((List.mergeSort_perm _ _).trans order)
  -- Two entries at one position are the same, since it tells the item.
  intro first second firstMember secondMember forward backward
  have samePosition : first.2 = second.2 :=
    Nat.le_antisymm (of_decide_eq_true forward) (of_decide_eq_true backward)
  rw [List.mem_mergeSort, order.mem_iff, List.mem_zipIdx_iff_getElem?,
    samePosition] at firstMember
  rw [List.mem_zipIdx_iff_getElem?, firstMember, Option.some.injEq] at secondMember
  exact Prod.ext secondMember samePosition

/-- Outcomes of a schedule that takes all items are put back in the order of the
items. -/
theorem putBack_map {α β : Type} {schedule : List (α × Nat)} {items : List α}
    (order : schedule.Perm items.zipIdx) (outcome : α → β) :
    putBack schedule (schedule.map fun item => outcome item.1) =
      items.map outcome := by
  have pairs :
      schedule.zip (schedule.map fun item => outcome item.1) =
        schedule.map fun item => (item, outcome item.1) := by
    rw [← List.zip_map', List.map_id']
  have sorted :
      ((schedule.map fun item => (item, outcome item.1)).mergeSort
          fun first second => first.1.2 ≤ second.1.2) =
        items.zipIdx.map fun item => (item, outcome item.1) := by
    rw [← mergeSort_schedule order]
    symm
    apply List.map_mergeSort
    intro first _ second _
    rfl
  calc putBack schedule (schedule.map fun item => outcome item.1)
      = (items.zipIdx.map fun item => (item, outcome item.1)).map Prod.snd := by
        rw [putBack, pairs, sorted]
    _ = (items.zipIdx.map Prod.fst).map outcome := by
        rw [List.map_map, List.map_map]
        rfl
    _ = items.map outcome := by
        rw [List.zipIdx_map_fst]

/-- Write pages in some order, as workers come to take the jobs.  Each job is
given with its position among all jobs. -/
def writePagesIn (generator : Generator) (schedule : List (PageJob × Nat)) :
    Work (List Path) :=
  .of fun workspace =>
    let policy := generator.settings.policy
    let (outcomes, after) := policy.runEach
      (fun item : PageJob × Nat => generator.writePage item.1) schedule workspace
    (policy.settle (putBack schedule outcomes), after)

theorem run_writePagesIn (collects : generator.settings.policy = .collectAll)
    {place : PageJob → Location} {jobs : List PageJob}
    (ready : generator.Ready jobs start.files place)
    {schedule : List (PageJob × Nat)} (order : schedule.Perm jobs.zipIdx) :
    ∃ log, (generator.writePagesIn schedule).run start =
      (FailurePolicy.collectAll.settle
          (jobs.map (generator.outcomeOf start.files place)),
        ⟨jobs.foldl (generator.addPage start.files place) start.files, log⟩) := by
  have jobsEq : (schedule.map Prod.fst).Perm jobs := by
    simpa [List.zipIdx_map_fst] using order.map Prod.fst
  have members : ∀ item ∈ schedule, item.1 ∈ jobs := fun item member =>
    jobsEq.subset (List.mem_map.mpr ⟨item, member, rfl⟩)
  obtain ⟨log, ran⟩ :=
    ready.runEach Prod.fst members (FileSystem.Fills.refl _ start.files)
  refine ⟨log, ?_⟩
  show ((generator.settings.policy.settle (putBack schedule
      (generator.settings.policy.runEach _ schedule start).1), _) :
        Except Failure (List Path) × Workspace) = _
  rw [collects, ran, putBack_map order, ready.foldl_addPage_perm jobsEq
    (fun job member => jobsEq.subset member)]

/-- The jobs in the order of the catalog are one of the schedules. -/
theorem run_writePages (collects : generator.settings.policy = .collectAll)
    {place : PageJob → Location} {catalog : Catalog}
    (ready : generator.Ready catalog.jobs start.files place) :
    ∃ log, (generator.writePages catalog).run start =
      (FailurePolicy.collectAll.settle
          (catalog.jobs.map (generator.outcomeOf start.files place)),
        ⟨catalog.jobs.foldl (generator.addPage start.files place) start.files,
          log⟩) := by
  obtain ⟨log, noted⟩ := Work.reads_note .debug
    ("Rendering " ++ Text.ofNat catalog.jobs.length ++ " pages on " ++
      Text.ofNat (generator.settings.workers generator.processors) ++
        " workers") start
  obtain ⟨lastLog, ran⟩ :=
    @Ready.runEach _ _ _ _ ready _ id catalog.jobs (fun _ => id)
      ⟨start.files, log⟩ (FileSystem.Fills.refl _ start.files)
  refine ⟨lastLog, ?_⟩
  rw [writePages, Work.run_bind, noted]
  dsimp only
  rw [FailurePolicy.run_forEach, collects]
  rw [List.map_id] at ran
  simp only [id] at ran
  rw [ran]

theorem settle_outcomes (generator : Generator) (files : FileSystem)
    (place : PageJob → Location) (jobs : List PageJob) :
    FailurePolicy.collectAll.settle (jobs.map (generator.outcomeOf files place)) =
      match FailurePolicy.failuresOf
          (jobs.map (generator.outcomeOf files place)) with
      | [] => .ok (jobs.map fun job =>
          job.snapshot.destination generator.settings.output)
      | failures => .error (.collect failures jobs.length) := by
  cases failed : FailurePolicy.failuresOf
      (jobs.map (generator.outcomeOf files place)) with
  | cons failure failures =>
      rw [FailurePolicy.settle_of_failure failed, List.length_map]
  | nil =>
      rw [FailurePolicy.settle_eq_ok_iff, List.map_map]
      refine List.map_congr_left fun job member => ?_
      rw [FailurePolicy.failuresOf_eq_nil_iff] at failed
      have settled :
          generator.outcomeOf files place job ∈
            (FailurePolicy.valuesOf
              (jobs.map (generator.outcomeOf files place))).map .ok := by
        rw [← failed]
        exact List.mem_map.mpr ⟨job, member, rfl⟩
      obtain ⟨page, _, pageEq⟩ := List.mem_map.mp settled
      exact pageEq.symm.trans
        (congrArg _ (outcomeOf_eq_ok_iff.mp pageEq.symm).1)

/-- After the files of a site are written, its pages can be written in any order
under the policy that collects failures.  All orders give one outcome and the
same files: the destinations of all jobs, or the failures in the order of the
jobs.  A job that fails leaves its destination as it was, and a job that succeeds
has its own page there. -/
theorem writePages_in_any_order (settings : Settings) (processors : Nat)
    (highlighter : Highlighter) (markdown : MarkdownRenderer)
    (original : FileSystem) (log : Log) (start : Workspace)
    (snapshots : List Snapshot)
    (collects : settings.policy = .collectAll)
    (read : snapshotsOf { settings, processors, highlighter, markdown } original =
      .ok snapshots)
    (written : (writeSiteFiles settings (Catalog.ofSnapshots snapshots)).run
      ⟨original, log⟩ = (.ok (), start))
    (distinct : ((Catalog.ofSnapshots snapshots).jobs.map fun job =>
      job.snapshot.destination settings.output).Nodup) :
    let generator : Generator := { settings, processors, highlighter, markdown }
    let catalog := Catalog.ofSnapshots snapshots
    let alone (job : PageJob) := ((generator.writePage job).run start).1
    ∃ outcome files,
      (∀ schedule : List (PageJob × Nat), schedule.Perm catalog.jobs.zipIdx →
        ∃ log, (generator.writePagesIn schedule).run start =
          (outcome, ⟨files, log⟩)) ∧
      (∃ log, (generator.writePages catalog).run start =
        (outcome, ⟨files, log⟩)) ∧
      outcome =
        (match FailurePolicy.failuresOf (catalog.jobs.map alone) with
        | [] => .ok (catalog.jobs.map fun job =>
            job.snapshot.destination settings.output)
        | failures => .error (.collect failures catalog.jobs.length)) ∧
      ∀ job ∈ catalog.jobs,
        (∀ failure, alone job = .error failure →
          files.find (job.snapshot.destination settings.output) =
            start.files.find (job.snapshot.destination settings.output)) ∧
        (∀ page, alone job = .ok page →
          page = job.snapshot.destination settings.output ∧
          ∃ language contents sections found,
            generator.registry.ofPath? job.snapshot.docFile = some language ∧
            start.files.readText job.snapshot.docFile = .ok contents ∧
            Body.highlight language highlighter markdown
                (Section.parse language contents job.snapshot.firstCodeLine) =
              .ok (sections, found) ∧
            files.readText page = .ok (Page.renderRevision {
              snapshot := job.snapshot
              others := job.others
              sections
              stylesheetName := settings.stylesheet })) := by
  intro generator catalog alone
  obtain ⟨place, ready⟩ :=
    @exists_ready generator original log start snapshots
      Registry.ofExtension?_builtin_html read written distinct
  have aloneEq :
      ∀ job ∈ catalog.jobs,
        alone job = generator.outcomeOf start.files place job := by
    intro job member
    obtain ⟨_, ran⟩ :=
      ready.run_writePage member (FileSystem.Fills.refl _ start.files)
    exact congrArg Prod.fst ran
  refine ⟨_, catalog.jobs.foldl (generator.addPage start.files place) start.files,
    fun schedule order => run_writePagesIn collects ready order,
    run_writePages collects ready, ?_, ?_⟩
  · rw [List.map_congr_left aloneEq]
    exact settle_outcomes generator start.files place catalog.jobs
  · intro job member
    rw [aloneEq job member]
    refine ⟨fun failure failed => ready.find_of_failure member failed, ?_⟩
    intro page succeeded
    obtain ⟨rfl, text, pageEq⟩ := outcomeOf_eq_ok_iff.mp succeeded
    obtain ⟨language, contents, sections, found, known, contentsRead,
      highlighted, rfl⟩ := pageOf_eq_ok_iff.mp (pageAt_eq_ok_iff.mp pageEq).1
    exact ⟨rfl, language, contents, sections, found, known, contentsRead,
      highlighted, ready.readText_of_page member pageEq⟩

/-- Two pages of an artifact, of which the second one cannot be highlighted. -/
theorem writePages_in_any_order_two :
    let header := "# Commit: 1\n# CommitDate: Jan 2 2020\n# SourceFile: x.py\n" ++
      "# SourceLink: l\n# DocAuthor: Ada\n"
    let original : FileSystem :=
      { entries :=
          [(["in"], .directory), (["in", "a"], .directory),
            (["in", "a", "x.py"], .file (.text (header ++ "x = 1\n"))),
            (["in", "a", "y.py"], .file (.text (header ++ "y = 2\n")))] }
    let settings : Settings :=
      { input := "in", output := "out", policy := .collectAll,
        writesMarker := false }
    let generator : Generator :=
      { settings
        highlighter := fun language code =>
          if code = "x = 1\n".toList then .ok (Highlight.renderSpans code [])
          else .error (.unparsable language.name)
        markdown := Markdown.toHtml }
    let snapshot (path : Path) : Snapshot :=
      ⟨"a", "1", ⟨2020, 1, 2⟩, "Jan 2 2020", "x.py", "l", "Ada", path, 5⟩
    let good : PageJob := ⟨snapshot "in/a/x.py", [snapshot "in/a/y.py"]⟩
    let bad : PageJob := ⟨snapshot "in/a/y.py", [snapshot "in/a/x.py"]⟩
    let catalog : Catalog := ⟨[⟨"a", [good.snapshot, bad.snapshot]⟩]⟩
    ∃ start failure files text,
      (writeSiteFiles settings catalog).run ⟨original, []⟩ = (.ok (), start) ∧
      (∃ log, (generator.writePagesIn [(good, 0), (bad, 1)]).run start =
        (.error failure, ⟨files, log⟩)) ∧
      (∃ log, (generator.writePagesIn [(bad, 1), (good, 0)]).run start =
        (.error failure, ⟨files, log⟩)) ∧
      files.readText "out/a/x.html" = .ok text ∧
      files.find "out/a/y.html" = .error .notFound := by
  intro header original settings generator snapshot good bad catalog
  have listed (first second : Text) :
      InputFile.discover
          { entries :=
              [(["in"], .directory), (["in", "a"], .directory),
                (["in", "a", "x.py"], .file (.text first)),
                (["in", "a", "y.py"], .file (.text second))] } "in" =
        .ok [⟨"a", "in/a/x.py"⟩, ⟨"a", "in/a/y.py"⟩] := by
    change Except.ok (InputFile.below _ ["in"] "in") = _
    cbv
  have catalogEq : Catalog.ofSnapshots [good.snapshot, bad.snapshot] = catalog := by
    dsimp only [catalog, good, bad, snapshot]
    cbv
  obtain ⟨read, _⟩ :=
    @run_generate_of_stages generator original _ [good.snapshot, bad.snapshot]
      catalog (listed _ _) (by decide +kernel) catalogEq []
  let start := ((writeSiteFiles settings catalog).run ⟨original, []⟩).2
  have succeeded :
      ((writeSiteFiles settings catalog).run ⟨original, []⟩).1 = .ok () :=
    eq_ok_of_toOption (by decide +kernel)
  have written :
      (writeSiteFiles settings catalog).run ⟨original, []⟩ = (.ok (), start) := by
    rw [← succeeded]
  have jobsEq : catalog.jobs = [good, bad] := rfl
  have distinct :
      (catalog.jobs.map fun job => job.snapshot.destination settings.output).Nodup := by
    decide +kernel
  have aloneGood :
      ((generator.writePage good).run start).1 = .ok "out/a/x.html" :=
    eq_ok_of_toOption (by decide +kernel)
  obtain ⟨failure, aloneBad⟩ :
      ∃ failure, ((generator.writePage bad).run start).1 = .error failure :=
    exists_error_of_isOk (by decide +kernel)
  rw [← catalogEq] at written distinct jobsEq
  obtain ⟨outcome, files, inAnyOrder, _, outcomeEq, each⟩ :=
    writePages_in_any_order settings 1 generator.highlighter generator.markdown
      original [] start _ rfl read written distinct
  rw [jobsEq] at inAnyOrder outcomeEq each
  have outcomeFailed : outcome = .error (.collect [failure] 2) := by
    rw [outcomeEq, List.map_cons, List.map_cons, aloneGood, aloneBad]
    rfl
  obtain ⟨_, _, _, _, _, _, _, _, page⟩ :=
    (each good (by simp)).2 _ aloneGood
  have untouched := (each bad (by simp)).1 failure aloneBad
  have missing : start.files.find "out/a/y.html" = .error .notFound := by
    decide +kernel
  subst outcomeFailed
  exact ⟨start, _, files, _, catalogEq ▸ written, inAnyOrder _ (.refl _),
    inAnyOrder _ (.swap _ _ _), page, untouched.trans missing⟩

end Generator

end Marginalia
