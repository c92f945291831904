import Marginalia.Proofs.FileSystem.Place
import Marginalia.Proofs.Site.Publication

/-!
# Writing a site once more

Where the files of a site stand, they can all be written again, in the order in
which they were written before.  Several of them may share a place: the last one
stands there, and on the way it is written over and comes back.  So in the end the
file system is what it was.
-/

namespace Marginalia

/-! ## Agreement outside some places -/

namespace FileSystem

variable {files other : FileSystem} {location : Location} {entry : Entry}
  {places : List Location}

/-- The same locations are listed in the same order, with directories at the same
ones, and outside of some places the entries are the same. -/
structure AgreesOutside (places : List Location) (files other : FileSystem) :
    Prop where
  workingDirectory : other.workingDirectory = files.workingDirectory
  locations : other.entries.map Prod.fst = files.entries.map Prod.fst
  directory : ∀ location, other.entry? location = some .directory ↔
    files.entry? location = some .directory
  lookup : ∀ location ∉ places,
    other.entries.lookup location = files.entries.lookup location

theorem AgreesOutside.refl (places : List Location) (files : FileSystem) :
    AgreesOutside places files files :=
  ⟨rfl, rfl, fun _ => Iff.rfl, fun _ _ => rfl⟩

/-- A place is settled when it gets its last contents, or when it will get them
later. -/
theorem AgreesOutside.put {contents last : Contents}
    (agrees : AgreesOutside (location :: places) files other)
    (standing : files.entry? location = some (.file last))
    (stands : location ∉ places → contents = last) :
    AgreesOutside places files (other.put location (.file contents)) := by
  have given := admits_iff.mp (admits_of_file standing)
  have notRoot : location ≠ [] := ne_root given.2.2
  have admits : other.entries.Admits location := by
    rw [admits_iff, Ne, agrees.directory, agrees.directory]
    exact given
  have present : Entries.has other.entries location = true := by
    rw [Entries.has_iff_mem, agrees.locations]
    exact List.mem_map.mpr ⟨_, (entry?_eq_some_iff notRoot).mp standing, rfl⟩
  have entriesEq :
      (other.put location (.file contents)).entries =
        other.entries.map (Entries.replace location (.file contents)) := by
    rw [entries_put admits, Entries.put_of_has present]
  refine ⟨?_, ?_, ?_, ?_⟩
  · rw [workingDirectory_put, agrees.workingDirectory]
  · rw [entriesEq, Entries.map_fst_map_replace, agrees.locations]
  · intro place
    rw [isDirectory_put_file_iff, agrees.directory]
  · intro place outside
    rw [entriesEq]
    by_cases here : place = location
    · rw [here] at outside ⊢
      rw [Entries.lookup_map_replace_self present, stands outside, ← standing,
        entry?_eq_lookup notRoot]
    · rw [Entries.lookup_map_replace here]
      apply agrees.lookup
      simp [here, outside]

/-- A list of entries is known from its locations and what is found at them. -/
theorem map_lookup_locations {entries : Entries}
    (distinct : (entries.map Prod.fst).Nodup) :
    (entries.map Prod.fst).map (fun location =>
      (location, (entries.lookup location).getD .directory)) = entries := by
  rw [List.map_map]
  refine (List.map_congr_left ?_).trans (List.map_id entries)
  intro pair member
  simp [lookup_of_mem distinct member]

/-- Two file systems that agree everywhere are the same. -/
theorem AgreesOutside.eq (agrees : AgreesOutside [] files other) :
    other = files := by
  apply FileSystem.ext
  · rw [← map_lookup_locations other.isTree.distinct, agrees.locations]
    simp only [agrees.lookup _ List.not_mem_nil]
    exact map_lookup_locations files.isTree.distinct
  · exact agrees.workingDirectory

end FileSystem

/-! ## Writing files again -/

namespace SiteFile

open FileSystem (Grows Fills AgreesOutside)

variable {file : SiteFile} {site part : List SiteFile}
  {before after files : FileSystem}

/-- Put a file where its path leads. -/
def put (files : FileSystem) (file : SiteFile) : FileSystem :=
  files.put (files.placeOf file.path) (.file (.text file.text))

/-- Where the paths of some files lead. -/
def places (site : List SiteFile) (files : FileSystem) : List Location :=
  site.map fun file => files.placeOf file.path

theorem WritesAll.grows (written : WritesAll site before after) :
    Grows (places site after) before after := by
  induction written with
  | nil grows =>
      exact grows
  | cons first rest inductionHypothesis =>
      obtain ⟨location, leads, _, changes⟩ := first
      have placeEq :=
        FileSystem.placeOf_of_locate (leads.grow inductionHypothesis).locate
      rw [places, List.map_cons, placeEq]
      exact changes.trans inductionHypothesis

/-- Files that were written once can be written again, and then stand as they
did. -/
theorem WritesAll.foldl_put_eq (written : WritesAll site before after)
    (agrees : AgreesOutside (places site after) after files) :
    site.foldl put files = after := by
  -- The places of the files still to be written are those that need not agree.
  induction written generalizing files with
  | nil _ =>
      exact agrees.eq
  | @cons file site before middle after first rest inductionHypothesis =>
      obtain ⟨location, leads, standing, _⟩ := first
      have changes := rest.grows
      have placeEq : after.placeOf file.path = location :=
        FileSystem.placeOf_of_locate (leads.grow changes).locate
      obtain ⟨contents, lastStanding⟩ := changes.file location _ standing
      rw [places, List.map_cons, placeEq] at agrees
      rw [List.foldl_cons]
      apply inductionHypothesis
      rw [put, FileSystem.placeOf_congr agrees.workingDirectory, placeEq]
      refine agrees.put lastStanding ?_
      intro notLater
      have kept := (changes.unchanged location notLater _).mpr standing
      rw [lastStanding] at kept
      cases kept
      rfl

end SiteFile

/-! ## Work that succeeds -/

namespace Work

variable {α β : Type} {work : Work α} {next : α → Work β} {value : α} {result : β}
  {before middle after files : FileSystem}

/-- The work succeeds, whatever is in the log. -/
def Succeeds (work : Work α) (before : FileSystem) (value : α)
    (after : FileSystem) : Prop :=
  ∀ log, ∃ later, work.run ⟨before, log⟩ = (.ok value, ⟨after, later⟩)

theorem Reads.succeeds {outcome : FileSystem → Except Failure α}
    (reads : Reads work outcome) (outcomeEq : outcome files = .ok value) :
    Succeeds work files value files := by
  intro log
  obtain ⟨later, ran⟩ := reads ⟨files, log⟩
  rw [outcomeEq] at ran
  exact ⟨later, ran⟩

theorem Succeeds.bind (first : Succeeds work before value middle)
    (second : Succeeds (next value) middle result after) :
    Succeeds (work >>= next) before result after := by
  intro log
  obtain ⟨middleLog, firstRun⟩ := first log
  obtain ⟨later, secondRun⟩ := second middleLog
  exact ⟨later, run_bind_eq_ok_iff.mpr ⟨value, _, firstRun, secondRun⟩⟩

end Work

/-! ## Work that writes a part of a site again -/

namespace Work

open FileSystem (Fills)
open SiteFile (places)

variable {α β : Type} {work : Work α} {next : α → Work β} {value : α} {result : β}
  {site part rest : List SiteFile} {start : FileSystem}

/-- Where the files of a site stand, the work succeeds and writes a part of them,
whichever of them were written again before. -/
def Rewrites (site : List SiteFile) (start : FileSystem) (work : Work α)
    (value : α) (part : List SiteFile) : Prop :=
  ∀ files, Fills (places site start) start files →
    Fills (places site start) start (part.foldl SiteFile.put files) ∧
      Succeeds work files value (part.foldl SiteFile.put files)

theorem Reads.rewrites {outcome : FileSystem → Except Failure α}
    (reads : Reads work outcome)
    (same : ∀ files, Fills (places site start) start files →
      outcome files = .ok value) :
    Rewrites site start work value [] :=
  fun files fills => ⟨fills, reads.succeeds (same files fills)⟩

theorem rewrites_note (level : LogLevel) (message : Text) :
    Rewrites site start (note level message) () [] :=
  (reads_note level message).rewrites fun _ _ => rfl

theorem Rewrites.bind (first : Rewrites site start work value part)
    (second : Rewrites site start (next value) result rest) :
    Rewrites site start (work >>= next) result (part ++ rest) := by
  intro files fills
  obtain ⟨firstFills, firstRun⟩ := first files fills
  obtain ⟨secondFills, secondRun⟩ := second _ firstFills
  rw [List.foldl_append]
  exact ⟨secondFills, firstRun.bind secondRun⟩

theorem Rewrites.skip (first : Rewrites site start work value [])
    (second : Rewrites site start (next value) result part) :
    Rewrites site start (work >>= next) result part :=
  first.bind second

theorem Rewrites.andThen {work : Work Unit} {next : Work β}
    (first : Rewrites site start work () part)
    (second : Rewrites site start next result rest) :
    Rewrites site start (do work; next) result (part ++ rest) :=
  first.bind second

theorem rewrites_makeDirectories {path : Path}
    (standing : path.text = [] ∨ start.isDirectory path = true) :
    Rewrites site start (makeDirectories path) () [] := by
  intro files fills
  have stillStanding : path.text = [] ∨ files.isDirectory path = true :=
    standing.imp_right fills.toGrows.isDirectory
  refine ⟨fills, fun log => ⟨log, ?_⟩⟩
  rw [run_makeDirectories, FileSystem.makeDirectories_of_isDirectory stillStanding]
  rfl

/-- A file of the site that stands is written again. -/
theorem rewrites_writeText {file : SiteFile} {location : Location}
    {contents : Contents} (member : file ∈ site)
    (leads : start.Leads file.path location)
    (standing : start.entry? location = some (.file contents)) :
    Rewrites site start (writeText file.path file.text) () [file] := by
  intro files fills
  have placeEq : start.placeOf file.path = location :=
    FileSystem.placeOf_of_locate leads.locate
  have samePlace : files.placeOf file.path = location :=
    (FileSystem.placeOf_congr fills.workingDirectory _).trans placeEq
  have notDirectory : start.entry? location ≠ some .directory := by
    simp [standing]
  have putEq :
      [file].foldl SiteFile.put files =
        files.put location (.file (.text file.text)) := by
    rw [List.foldl_cons, List.foldl_nil, SiteFile.put, samePlace]
  rw [putEq]
  constructor
  · exact fills.put (List.mem_map.mpr ⟨file, member, placeEq⟩) _
  · intro log
    have wrote :=
      @run_write_of_leads _ _ ⟨files, log⟩ (leads.grow fills.toGrows)
        (.text file.text)
    rw [if_neg (fills.directory_iff.not.mpr notDirectory)] at wrote
    exact ⟨log, wrote⟩

/-- Work for each item writes the files of the items. -/
theorem rewrites_runsEach {items : List α} {work : α → Work β} {value : α → β}
    {file : α → SiteFile}
    (each : ∀ item ∈ items,
      Rewrites site start (work item) (value item) [file item]) :
    ∀ files, Fills (places site start) start files →
      Fills (places site start) start
        ((items.map file).foldl SiteFile.put files) ∧
      ∀ log, ∃ later, RunsEach work items ⟨files, log⟩ (items.map value)
        ⟨(items.map file).foldl SiteFile.put files, later⟩ := by
  induction items with
  | nil =>
      exact fun files fills => ⟨fills, fun log => ⟨log, .nil _⟩⟩
  | cons item items inductionHypothesis =>
      intro files fills
      obtain ⟨firstFills, firstRun⟩ := each item List.mem_cons_self files fills
      obtain ⟨lastFills, restRuns⟩ :=
        inductionHypothesis
          (fun other member => each other (List.mem_cons_of_mem item member))
          _ firstFills
      refine ⟨lastFills, fun log => ?_⟩
      obtain ⟨middleLog, step⟩ := firstRun log
      obtain ⟨later, rest⟩ := restRuns middleLog
      exact ⟨later, .cons step rest⟩

theorem rewrites_forEach {items : List α} {work : α → Work β} {value : α → β}
    {file : α → SiteFile} (policy : FailurePolicy)
    (each : ∀ item ∈ items,
      Rewrites site start (work item) (value item) [file item]) :
    Rewrites site start (policy.forEach items work) (items.map value)
      (items.map file) := by
  intro files fills
  obtain ⟨lastFills, runs⟩ := rewrites_runsEach each files fills
  refine ⟨lastFills, fun log => ?_⟩
  obtain ⟨later, runs⟩ := runs log
  exact ⟨later, FailurePolicy.forEach_of_runsEach runs policy⟩

theorem rewrites_forM {items : List α} {work : α → Work Unit}
    {file : α → SiteFile}
    (each : ∀ item ∈ items, Rewrites site start (work item) () [file item]) :
    Rewrites site start (items.forM work) () (items.map file) := by
  induction items with
  | nil =>
      exact (reads_pure ()).rewrites fun _ _ => rfl
  | cons item items inductionHypothesis =>
      exact (each item List.mem_cons_self).bind
        (inductionHypothesis fun other member =>
          each other (List.mem_cons_of_mem item member))

end Work

end Marginalia
