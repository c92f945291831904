import Marginalia.Proofs.Site.Publication

/-!
# Stopping at a failure or going on

A run that stops at a failure and a run that goes on do the same work up to the
first failure.  So they succeed on the same files with the same result, and
where they fail, the failure of the first run is the first one that the second
run reports.
-/

namespace Marginalia

/-! ## Single failures -/

namespace Failure

/-- The failure is no collection of failures. -/
def IsSingle : Failure → Prop
  | .aggregate _ _ => False
  | _ => True

/-- A failure is the first one of a report: the head of a collection, or the
report itself. -/
def IsFirstOf (first : Failure) : Failure → Prop
  | .aggregate failures _ => failures.head? = some first
  | report => report = first

theorem IsSingle.isFirstOf_self {failure : Failure} (single : failure.IsSingle) :
    failure.IsFirstOf failure := by
  cases failure with
  | aggregate failures total => exact single.elim
  | _ => rfl

theorem IsSingle.isFirstOf_collect {failure : Failure}
    (single : failure.IsSingle) (failures : List Failure) (total : Nat) :
    failure.IsFirstOf (.collect (failure :: failures) total) := by
  cases failures with
  | nil => exact single.isFirstOf_self
  | cons next failures => rfl

end Failure

namespace Work

variable {α β : Type}

/-- The work never fails with a collection of failures. -/
def FailsSingly (work : Work α) : Prop :=
  ∀ workspace failure, (work.run workspace).1 = .error failure →
    failure.IsSingle

/-- Work that only reads fails as its outcome does. -/
theorem Reads.failsSingly {work : Work α} {outcome : FileSystem → Except Failure α}
    (reads : Reads work outcome)
    (single : ∀ files failure, outcome files = .error failure → failure.IsSingle) :
    FailsSingly work := by
  intro workspace failure failed
  obtain ⟨log, ran⟩ := reads workspace
  rw [ran] at failed
  exact single workspace.files failure failed

theorem failsSingly_pure (value : α) : FailsSingly (pure value) :=
  (reads_pure value).failsSingly nofun

theorem failsSingly_lift {outcome : Except Failure α}
    (single : ∀ failure, outcome = .error failure → failure.IsSingle) :
    FailsSingly (liftM outcome) :=
  (reads_lift outcome).failsSingly fun _ => single

theorem failsSingly_note (level : LogLevel) (message : Text) :
    FailsSingly (note level message) :=
  (reads_note level message).failsSingly nofun

theorem FailsSingly.bind {work : Work α} {next : α → Work β}
    (first : work.FailsSingly) (second : ∀ value, (next value).FailsSingly) :
    (work >>= next).FailsSingly := by
  intro workspace failure failed
  rw [run_bind] at failed
  rcases ran : work.run workspace with ⟨fault | value, after⟩
  · rw [ran] at failed
    cases failed
    exact first workspace failure (by rw [ran])
  · rw [ran] at failed
    exact second value after failure failed

theorem FailsSingly.forM {work : α → Work Unit}
    (each : ∀ item, (work item).FailsSingly) (items : List α) :
    FailsSingly (items.forM work) := by
  induction items with
  | nil =>
      exact failsSingly_pure ()
  | cons item items inductionHypothesis =>
      exact (each item).bind fun _ => inductionHypothesis

theorem failsSingly_readText (path : Path) : FailsSingly (readText path) := by
  apply (reads_readText path).failsSingly
  intro files failure failed
  cases read : files.readText path with
  | ok text =>
      rw [read] at failed
      cases failed
  | error fault =>
      rw [read] at failed
      cases failed
      trivial

theorem failsSingly_makeDirectories (path : Path) :
    FailsSingly (makeDirectories path) := by
  intro workspace failure failed
  rw [run_makeDirectories] at failed
  cases made : (workspace.files.makeDirectories path).1 with
  | ok =>
      rw [made] at failed
      cases failed
  | error fault =>
      rw [made] at failed
      cases failed
      trivial

theorem failsSingly_makeParent (path : Path) : FailsSingly (makeParent path) := by
  rw [makeParent]
  cases path.parent? with
  | none =>
      exact failsSingly_pure ()
  | some parent =>
      exact failsSingly_makeDirectories parent

theorem failsSingly_store (path : Path) (contents : Contents) :
    FailsSingly (store path contents) := by
  intro workspace failure failed
  rw [run_store] at failed
  cases written : workspace.files.write path contents with
  | ok files =>
      rw [written] at failed
      cases failed
  | error fault =>
      rw [written] at failed
      cases failed
      trivial

theorem failsSingly_writeText (path : Path) (text : Text) :
    FailsSingly (writeText path text) := by
  rw [writeText, write]
  exact (failsSingly_makeParent path).bind fun _ => failsSingly_store path _

/-! ## Agreement of two runs -/

/-- The outcome of work that stops at a failure agrees with that of work that
goes on: both succeed with one value in one workspace, or both fail and the
first of the failures is that of the work which stops. -/
inductive Agree : Except Failure α × Workspace → Except Failure α × Workspace → Prop
  | success (value : α) (after : Workspace) :
      Agree (.ok value, after) (.ok value, after)
  | failure {first report : Failure} (stopped after : Workspace) :
      first.IsFirstOf report → Agree (.error first, stopped) (.error report, after)

theorem Agree.bind {stopping going : Work α} {next other : α → Work β}
    {workspace : Workspace} (first : Agree (stopping.run workspace) (going.run workspace))
    (second : ∀ value after, Agree ((next value).run after) ((other value).run after)) :
    Agree ((stopping >>= next).run workspace) ((going >>= other).run workspace) := by
  rw [run_bind, run_bind]
  generalize stopping.run workspace = stoppingRun at first
  generalize going.run workspace = goingRun at first
  cases first with
  | success value after => exact second value after
  | failure stopped after isFirst => exact .failure stopped after isFirst

/-- Work that fails with single failures agrees with itself. -/
theorem FailsSingly.agree {work : Work α} (single : work.FailsSingly)
    (workspace : Workspace) : Agree (work.run workspace) (work.run workspace) := by
  rcases ran : work.run workspace with ⟨failure | value, after⟩
  · exact .failure after after
      (single workspace failure (by rw [ran])).isFirstOf_self
  · exact .success value after

theorem Agree.run_eq_ok_iff {stopping going : Except Failure α × Workspace}
    (agree : Agree stopping going) {value : α} {after : Workspace} :
    stopping = (.ok value, after) ↔ going = (.ok value, after) := by
  cases agree with
  | success other last => exact Iff.rfl
  | failure stopped last isFirst => simp

theorem Agree.exists_first {stopping going : Except Failure α × Workspace}
    (agree : Agree stopping going) {report : Failure} {after : Workspace}
    (failed : going = (.error report, after)) :
    ∃ first stopped, stopping = (.error first, stopped) ∧
      first.IsFirstOf report := by
  cases agree with
  | success other last => cases failed
  | failure stopped last isFirst =>
      cases failed
      exact ⟨_, stopped, rfl, isFirst⟩

end Work

namespace FailurePolicy

open Work

variable {α β : Type} {work : α → Work β}

/-- Up to the first failure both policies do the same, and the outcome of the
first item that fails is the first failure of all. -/
theorem runEach_agree (items : List α) (workspace : Workspace) :
    (failFast.runEach work items workspace =
        collectAll.runEach work items workspace ∧
      failuresOf (collectAll.runEach work items workspace).1 = []) ∨
    ∃ item before first failures stopped,
      item ∈ items ∧ (work item).run before = (.error first, stopped) ∧
      failuresOf (failFast.runEach work items workspace).1 = [first] ∧
      failuresOf (collectAll.runEach work items workspace).1 =
        first :: failures := by
  induction items generalizing workspace with
  | nil =>
      exact Or.inl ⟨rfl, rfl⟩
  | cons item items inductionHypothesis =>
      rcases ran : (work item).run workspace with ⟨failure | value, after⟩
      · refine Or.inr ⟨item, workspace, failure,
          failuresOf (collectAll.runEach work items after).1, after,
          List.mem_cons_self, ran, ?_, ?_⟩
        · rw [runEach_failFast_cons_error ran]
          rfl
        · rw [runEach_collectAll_cons ran]
          rfl
      · rw [runEach_cons_ok ran, runEach_cons_ok ran]
        rcases inductionHypothesis after with
          ⟨same, none⟩ | ⟨other, before, first, failures, stopped, member, failed,
            stoppedFailures, allFailures⟩
        · exact Or.inl ⟨by rw [same], none⟩
        · exact Or.inr ⟨other, before, first, failures, stopped,
            List.mem_cons_of_mem item member, failed, stoppedFailures,
            allFailures⟩

theorem agree_forEach (single : ∀ item, (work item).FailsSingly)
    (items : List α) (workspace : Workspace) :
    Agree ((failFast.forEach items work).run workspace)
      ((collectAll.forEach items work).run workspace) := by
  rw [run_forEach, run_forEach]
  rcases @runEach_agree α β work items workspace with
    ⟨same, none⟩ | ⟨item, before, first, failures, stopped, _, failed,
      stoppedFailures, allFailures⟩
  · rw [same, settle_of_no_failure none, settle_of_no_failure none]
    exact .success _ _
  · rw [settle_of_failure stoppedFailures, settle_of_failure allFailures]
    have firstSingle : first.IsSingle :=
      single item before first (by rw [failed])
    exact .failure _ _ (firstSingle.isFirstOf_collect failures _)

end FailurePolicy

/-! ## The stages of a run -/

theorem Header.isSingle_of_scanLines {language : Language} {path : Path}
    {header : Header} {lines : List Text} {failure : Failure}
    (failed : scanLines language path header lines = .error failure) :
    failure.IsSingle := by
  fun_induction scanLines language path header lines with
  | case1 header => cases failed
  | case2 header line rest _ => cases failed
  | case3 header line rest key value _ _ inductionHypothesis =>
      exact inductionHypothesis failed
  | case4 header line rest key value _ field _ updated _ inductionHypothesis =>
      exact inductionHypothesis failed
  | case5 header line rest key value _ field _ fault _ =>
      cases failed
      trivial

theorem Header.isSingle_of_parse {language : Language} {artifact : Text}
    {path : Path} {contents : Text} {failure : Failure}
    (failed : parse language artifact path contents = .error failure) :
    failure.IsSingle := by
  rw [parse] at failed
  split at failed
  · next scanned =>
      cases failed
      exact isSingle_of_scanLines scanned
  · split at failed
    · cases failed
    · cases failed
      trivial

namespace Generator

variable {generator : Generator}

theorem failsSingly_listInputs (directory : Path) :
    (listInputs directory).FailsSingly := by
  apply (reads_listInputs directory).failsSingly
  intro files failure failed
  rw [InputFile.discover] at failed
  split at failed
  · cases failed
  · cases failed
    trivial

theorem failsSingly_languageOf (registry : Registry) (path : Path) :
    Work.FailsSingly (liftM (languageOf registry path)) := by
  apply Work.failsSingly_lift
  intro failure failed
  rw [languageOf] at failed
  split at failed
  · cases failed
  · cases failed
    trivial

theorem failsSingly_readSnapshot (registry : Registry) (input : InputFile) :
    (readSnapshot registry input).FailsSingly :=
  (failsSingly_languageOf registry input.path).bind fun _ =>
    (Work.failsSingly_readText input.path).bind fun _ =>
      ((Work.reads_report _).failsSingly nofun).bind fun _ =>
        Work.failsSingly_lift fun _ => Header.isSingle_of_parse

theorem failsSingly_announce (generator : Generator) (catalog : Catalog) :
    (generator.announce catalog).FailsSingly :=
  (reads_announce generator catalog).failsSingly nofun

theorem failsSingly_writeSiteFiles (settings : Settings) (catalog : Catalog) :
    (writeSiteFiles settings catalog).FailsSingly := by
  have shared :
      Work.FailsSingly ((sharedFiles settings catalog).forM SiteFile.write) :=
    Work.FailsSingly.forM (fun _ => Work.failsSingly_writeText _ _) _
  have indexes :
      Work.FailsSingly (catalog.groups.forM (writeArtifactIndex settings)) :=
    Work.FailsSingly.forM (fun group =>
      (Work.failsSingly_writeText _ _).bind fun _ => Work.failsSingly_note _ _) _
  rw [writeSiteFiles]
  exact (Work.failsSingly_makeDirectories _).bind fun _ =>
    shared.bind fun _ => indexes

theorem failsSingly_sectionsOf (generator : Generator) (language : Language)
    (snapshot : Snapshot) (contents : Text) :
    Work.FailsSingly (liftM (generator.sectionsOf language snapshot contents)) := by
  apply Work.failsSingly_lift
  intro failure failed
  rw [sectionsOf] at failed
  split at failed
  · cases failed
  · cases failed
    trivial

theorem failsSingly_readPage (generator : Generator) (job : PageJob) :
    (generator.readPage job).FailsSingly := by
  refine (failsSingly_languageOf _ _).bind fun language =>
    (Work.failsSingly_readText _).bind fun contents =>
      (failsSingly_sectionsOf _ _ _ _).bind fun found => ?_
  dsimp only
  split
  · exact (Work.failsSingly_note _ _).bind fun _ => Work.failsSingly_pure _
  · exact Work.failsSingly_pure _

theorem failsSingly_writePage (generator : Generator) (job : PageJob) :
    (generator.writePage job).FailsSingly := by
  rw [writePage]
  exact (failsSingly_readPage generator job).bind fun _ =>
    (Work.failsSingly_writeText _ _).bind fun _ =>
      (Work.failsSingly_note _ _).bind fun _ => Work.failsSingly_pure _

def under (generator : Generator) (policy : FailurePolicy) : Generator :=
  { generator with settings := { generator.settings with policy } }

theorem agree_readInputs (generator : Generator) (workspace : Workspace) :
    Work.Agree ((generator.under .failFast).readInputs.run workspace)
      ((generator.under .collectAll).readInputs.run workspace) :=
  ((failsSingly_listInputs _).agree workspace).bind fun inputs after =>
    FailurePolicy.agree_forEach (failsSingly_readSnapshot generator.registry)
      inputs after

theorem agree_writePages (generator : Generator) (catalog : Catalog)
    (workspace : Workspace) :
    Work.Agree (((generator.under .failFast).writePages catalog).run workspace)
      (((generator.under .collectAll).writePages catalog).run workspace) :=
  ((Work.failsSingly_note _ _).agree workspace).bind fun _ after =>
    FailurePolicy.agree_forEach
      (failsSingly_writePage (generator.under .failFast)) catalog.jobs after

theorem agree_writeSite (generator : Generator) (catalog : Catalog)
    (workspace : Workspace) :
    Work.Agree (((generator.under .failFast).writeSite catalog).run workspace)
      (((generator.under .collectAll).writeSite catalog).run workspace) :=
  ((failsSingly_writeSiteFiles generator.settings catalog).agree workspace).bind
    fun _ middle => (agree_writePages generator catalog middle).bind
      fun _ last => (Work.failsSingly_pure _).agree last

theorem agree_publish (generator : Generator) (snapshots : List Snapshot)
    (workspace : Workspace) :
    Work.Agree (((generator.under .failFast).publish snapshots).run workspace)
      (((generator.under .collectAll).publish snapshots).run workspace) := by
  rw [publish, publish]
  exact ((failsSingly_announce generator _).agree workspace).bind fun _ =>
    agree_writeSite generator (Catalog.ofSnapshots snapshots)

theorem agree_generate (generator : Generator) (workspace : Workspace) :
    Work.Agree ((generator.under .failFast).generate.run workspace)
      ((generator.under .collectAll).generate.run workspace) := by
  rw [generate, generate]
  exact (agree_readInputs generator workspace).bind
    (agree_publish generator)

/-- The policy makes no difference to what a run accepts.  Both policies succeed
on the same files, with one report and the same workspace afterwards, and so
does the stage that reads the headers.  If the run fails, the policy that stops
reports the first of the failures that the other one collects, or the same
failure if that one collects none. -/
theorem generate_under_either_policy (generator : Generator)
    (workspace : Workspace) :
    let stopping := generator.under .failFast
    let going := generator.under .collectAll
    (∀ report after,
      stopping.generate.run workspace = (.ok report, after) ↔
        going.generate.run workspace = (.ok report, after)) ∧
    (∀ snapshots after,
      stopping.readInputs.run workspace = (.ok snapshots, after) ↔
        going.readInputs.run workspace = (.ok snapshots, after)) ∧
    (∀ failures total after,
      going.generate.run workspace =
          (.error (.aggregate failures total), after) →
        ∃ first stopped, failures.head? = some first ∧
          stopping.generate.run workspace = (.error first, stopped)) ∧
    (∀ failure after,
      going.generate.run workspace = (.error failure, after) →
        (∀ failures total, failure ≠ .aggregate failures total) →
          ∃ stopped, stopping.generate.run workspace =
            (.error failure, stopped)) := by
  intro stopping going
  have agree := agree_generate generator workspace
  refine ⟨fun _ _ => agree.run_eq_ok_iff,
    fun _ _ => (agree_readInputs generator workspace).run_eq_ok_iff, ?_, ?_⟩
  · intro failures total after failed
    obtain ⟨first, stopped, ran, isFirst⟩ := agree.exists_first failed
    exact ⟨first, stopped, isFirst, ran⟩
  · intro failure after failed single
    obtain ⟨first, stopped, ran, isFirst⟩ := agree.exists_first failed
    have same : failure = first := by
      cases failure with
      | aggregate failures total => exact absurd rfl (single failures total)
      | _ => exact isFirst
    exact ⟨stopped, same ▸ ran⟩

/-- A file of no known language in front of one without a header: both failures
are collected, and a run that stops reports the first one. -/
theorem generate_under_either_policy_two :
    let files : FileSystem :=
      { entries :=
          [(["in"], .directory), (["in", "a"], .directory),
            (["in", "a", "x.txt"], .file (.text "text\n")),
            (["in", "a", "y.py"], .file (.text "y = 2\n"))] }
    let generator : Generator :=
      { settings := { input := "in" }
        highlighter := fun _ code => .ok code
        markdown := Markdown.toHtml }
    let first : Failure := .unsupportedLanguage "in/a/x.txt"
    let second : Failure := .missingHeaders "in/a/y.py" HeaderField.all
    ∃ collected stopped,
      (generator.under .collectAll).generate.run ⟨files, []⟩ =
        (.error (.aggregate [first, second] 2), collected) ∧
      (generator.under .failFast).generate.run ⟨files, []⟩ =
        (.error first, stopped) := by
  intro files generator first second
  have listed :
      InputFile.discover files "in" =
        .ok [⟨"a", "in/a/x.txt"⟩, ⟨"a", "in/a/y.py"⟩] := by
    change Except.ok (InputFile.below files ["in"] "in") = _
    cbv
  have read :
      (generator.under .collectAll).snapshotsOf files =
        .error (.aggregate [first, second] 2) := by
    show InputFile.discover files "in" >>= _ = _
    rw [listed]
    rfl
  obtain ⟨log, failed⟩ :=
    @run_generate_of_error (generator.under .collectAll) ⟨files, []⟩ _ read
  obtain ⟨_, _, aggregated, _⟩ :=
    generate_under_either_policy generator ⟨files, []⟩
  obtain ⟨head, stopped, headEq, stoppedRun⟩ := aggregated _ _ _ failed
  cases headEq
  exact ⟨_, stopped, failed, stoppedRun⟩

end Generator

end Marginalia
