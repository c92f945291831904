import Marginalia.Proofs.FileSystem.Writing
import Marginalia.Site.Work

/-!
# Runs of work

What a piece of work does is known from its run: an outcome and the workspace
after it.  Work that only reads has an outcome that depends on the files alone
and leaves them as they are.  Work for each of several items is a run of one
after the other, and it succeeds exactly if all of them do.
-/

namespace Marginalia

/-! ## Settling outcomes -/

namespace FailurePolicy

variable {α : Type} {policy : FailurePolicy}

def failuresOf (results : List (Except Failure α)) : List Failure :=
  results.filterMap fun
    | .ok _ => none
    | .error failure => some failure

def valuesOf (results : List (Except Failure α)) : List α :=
  results.filterMap fun
    | .ok value => some value
    | .error _ => none

@[simp]
theorem failuresOf_cons_error (failure : Failure)
    (results : List (Except Failure α)) :
    failuresOf (.error failure :: results) = failure :: failuresOf results :=
  rfl

@[simp]
theorem failuresOf_cons_ok (value : α) (results : List (Except Failure α)) :
    failuresOf (.ok value :: results) = failuresOf results :=
  rfl

@[simp]
theorem valuesOf_cons_error (failure : Failure)
    (results : List (Except Failure α)) :
    valuesOf (.error failure :: results) = valuesOf results :=
  rfl

@[simp]
theorem valuesOf_cons_ok (value : α) (results : List (Except Failure α)) :
    valuesOf (.ok value :: results) = value :: valuesOf results :=
  rfl

theorem sortOut_eq (results : List (Except Failure α)) :
    sortOut results = (valuesOf results, failuresOf results) := by
  induction results with
  | nil =>
      rfl
  | cons result results inductionHypothesis =>
      cases result <;> simp [sortOut, inductionHypothesis]

theorem untilFailure_of_no_failure {results : List (Except Failure α)}
    (none : failuresOf results = []) :
    untilFailure results = .ok (valuesOf results) := by
  induction results with
  | nil =>
      rfl
  | cons result results inductionHypothesis =>
      cases result with
      | error failure =>
          cases none
      | ok value =>
          rw [untilFailure, inductionHypothesis none]
          rfl

theorem untilFailure_of_failure {results : List (Except Failure α)}
    {failure : Failure} {failures : List Failure}
    (some : failuresOf results = failure :: failures) :
    untilFailure results = .error failure := by
  induction results with
  | nil =>
      cases some
  | cons result results inductionHypothesis =>
      cases result with
      | error first =>
          have same : first = failure := (List.cons.inj some).1
          rw [untilFailure, same]
      | ok value =>
          rw [untilFailure, inductionHypothesis some]
          rfl

theorem settle_of_no_failure {results : List (Except Failure α)}
    (none : failuresOf results = []) :
    policy.settle results = .ok (valuesOf results) := by
  cases policy with
  | failFast =>
      exact untilFailure_of_no_failure none
  | collectAll =>
      rw [settle, sortOut_eq, none]

theorem settle_of_failure {results : List (Except Failure α)}
    {failure : Failure} {failures : List Failure}
    (some : failuresOf results = failure :: failures) :
    policy.settle results =
      .error (match policy with
        | .failFast => failure
        | .collectAll => .collect (failure :: failures) results.length) := by
  cases policy with
  | failFast =>
      exact untilFailure_of_failure some
  | collectAll =>
      rw [settle, sortOut_eq, some]

@[simp]
theorem failuresOf_map_ok_append (values : List α)
    (rest : List (Except Failure α)) :
    failuresOf (values.map .ok ++ rest) = failuresOf rest := by
  induction values with
  | nil =>
      rfl
  | cons value values inductionHypothesis =>
      simpa using inductionHypothesis

@[simp]
theorem failuresOf_map_ok (values : List α) :
    failuresOf (values.map .ok) = [] := by
  have appended := failuresOf_map_ok_append values []
  rwa [List.append_nil] at appended

@[simp]
theorem valuesOf_map_ok (values : List α) :
    valuesOf (values.map .ok) = values := by
  induction values with
  | nil =>
      rfl
  | cons value values inductionHypothesis =>
      simpa using inductionHypothesis

theorem failuresOf_eq_nil_iff {results : List (Except Failure α)} :
    failuresOf results = [] ↔ results = (valuesOf results).map .ok := by
  constructor
  · intro none
    induction results with
    | nil =>
        rfl
    | cons result results inductionHypothesis =>
        cases result with
        | error failure =>
            cases none
        | ok value =>
            rw [valuesOf_cons_ok, List.map_cons, ← inductionHypothesis none]
  · intro same
    rw [same, failuresOf_map_ok]

theorem settle_eq_ok_iff {results : List (Except Failure α)}
    {values : List α} :
    policy.settle results = .ok values ↔ results = values.map .ok := by
  constructor
  · intro settled
    cases failed : failuresOf results with
    | nil =>
        rw [settle_of_no_failure failed] at settled
        rw [← Except.ok.inj settled]
        exact failuresOf_eq_nil_iff.mp failed
    | cons failure failures =>
        rw [settle_of_failure failed] at settled
        cases settled
  · rintro rfl
    rw [settle_of_no_failure (failuresOf_map_ok values), valuesOf_map_ok]

@[simp]
theorem settle_failFast_error (failure : Failure)
    (results : List (Except Failure α)) :
    failFast.settle (.error failure :: results) = .error failure :=
  rfl

@[simp]
theorem settle_failFast_ok (value : α) (results : List (Except Failure α)) :
    failFast.settle (.ok value :: results) =
      (failFast.settle results).map (value :: ·) :=
  rfl

end FailurePolicy

/-! ## Steps -/

namespace Work

variable {α β : Type} {before middle after : Workspace}

theorem run_of_outcome {work : Work α} {workspace : Workspace}
    {outcome : Except Failure α} (ended : (work.run workspace).1 = outcome) :
    work.run workspace = (outcome, (work.run workspace).2) :=
  Prod.ext ended rfl

theorem run_bind (work : Work α) (next : α → Work β) (workspace : Workspace) :
    (work >>= next).run workspace =
      match work.run workspace with
      | (.ok value, after) => (next value).run after
      | (.error failure, after) => (.error failure, after) := by
  show
    (match work.run workspace with
      | (outcome, after) => StateT.run (ExceptT.bindCont next outcome) after) = _
  rcases work.run workspace with ⟨_ | _, after⟩ <;> rfl

theorem run_bind_eq_ok_iff {work : Work α} {next : α → Work β} {result : β} :
    (work >>= next).run before = (.ok result, after) ↔
      ∃ value middle, work.run before = (.ok value, middle) ∧
        (next value).run middle = (.ok result, after) := by
  rw [run_bind]
  rcases work.run before with ⟨failure | value, middle⟩
  · simp
  · simp

@[simp]
theorem run_files (workspace : Workspace) :
    files.run workspace = (.ok workspace.files, workspace) :=
  rfl

theorem run_makeDirectories (path : Path) (workspace : Workspace) :
    (makeDirectories path).run workspace =
      ((workspace.files.makeDirectories path).1.mapError (.write path),
        { workspace with files := (workspace.files.makeDirectories path).2 }) := by
  simp only [makeDirectories, of, run, ExceptT.run, ExceptT.mk, StateT.run]
  rcases workspace.files.makeDirectories path with ⟨_ | _, _⟩ <;> rfl

/-! ## The parts of writing a file -/

theorem run_store (path : Path) (contents : Contents) (workspace : Workspace) :
    (store path contents).run workspace =
      match workspace.files.write path contents with
      | .ok files => (.ok (), { workspace with files })
      | .error fault => (.error (.write path fault), workspace) := by
  rw [store, run_bind, run_files]
  dsimp only
  cases workspace.files.write path contents <;> rfl

/-- A file is stored exactly if the file system can write it. -/
theorem run_store_eq_ok_iff {path : Path} {contents : Contents} :
    (store path contents).run before = (.ok (), after) ↔
      ∃ files, before.files.write path contents = .ok files ∧
        after = { before with files } := by
  rw [run_store]
  cases before.files.write path contents with
  | error fault => simp
  | ok files => simp [eq_comm]

/-- The directory that a file stands in is made, and no file changes. -/
theorem grows_of_makeParent {path : Path}
    (made : (makeParent path).run before = (.ok (), after)) :
    FileSystem.Grows [] before.files after.files ∧
      ∀ parent, path.parent? = some parent →
        parent.text = [] ∨ after.files.isDirectory parent = true := by
  rw [makeParent] at made
  cases parentEq : path.parent? with
  | none =>
      rw [parentEq] at made
      cases made
      exact ⟨.refl _, nofun⟩
  | some parent =>
      have grows := FileSystem.Grows.makeDirectories before.files parent
      simp only [parentEq, run_makeDirectories, Prod.mk.injEq] at made
      obtain ⟨outcome, rfl⟩ := made
      refine ⟨grows, ?_⟩
      rintro _ ⟨⟩
      rcases result : before.files.makeDirectories parent with ⟨_ | _, files⟩
      · rw [result] at outcome
        cases outcome
      · exact FileSystem.isDirectory_of_makeDirectories result

/-- Making a directory that is there changes nothing. -/
theorem run_makeParent_of_leads {path : Path} {location : Location}
    {workspace : Workspace} (leads : workspace.files.Leads path location) :
    (makeParent path).run workspace = (.ok (), workspace) := by
  rw [makeParent]
  cases parentEq : path.parent? with
  | none =>
      rfl
  | some parent =>
      dsimp only
      rw [run_makeDirectories, FileSystem.makeDirectories_of_isDirectory
        (leads.parent parent parentEq)]
      rfl

/-- In a directory that is there, only the file is written. -/
theorem run_write_of_leads {path : Path} {location : Location}
    {workspace : Workspace} (leads : workspace.files.Leads path location)
    (contents : Contents) :
    (write path contents).run workspace =
      if workspace.files.entry? location = some .directory then
        (.error (.write path .isDirectory), workspace)
      else
        (.ok (), { workspace with
          files := workspace.files.put location (.file contents) }) := by
  rw [write, run_bind, run_makeParent_of_leads leads]
  dsimp only
  rw [run_store, leads.write]
  by_cases standing : workspace.files.entry? location = some .directory
  · rw [if_pos standing, if_pos standing]
  · rw [if_neg standing, if_neg standing]

/-- A file that is written stands where its path leads, and no other file
changes. -/
theorem exists_leads_of_run {path : Path} {contents : Contents}
    (wrote : (write path contents).run before = (.ok (), after)) :
    ∃ location, after.files.Leads path location ∧
      after.files.entry? location = some (.file contents) ∧
      FileSystem.Grows [location] before.files after.files := by
  rw [write] at wrote
  obtain ⟨_, middle, made, stored⟩ := run_bind_eq_ok_iff.mp wrote
  obtain ⟨grows, parents⟩ := grows_of_makeParent made
  obtain ⟨files, written, rfl⟩ := run_store_eq_ok_iff.mp stored
  obtain ⟨location, leads, standing, changes⟩ :=
    FileSystem.exists_leads_of_write parents written
  exact ⟨location, leads, standing, grows.trans changes⟩

/-! ## Work that only reads -/

/-- The work changes no file, and its outcome is a function of the files. -/
def Reads (work : Work α) (outcome : FileSystem → Except Failure α) : Prop :=
  ∀ workspace, ∃ log,
    work.run workspace = (outcome workspace.files, { workspace with log })

theorem Reads.congr {work : Work α}
    {outcome other : FileSystem → Except Failure α} (reads : Reads work outcome)
    (same : ∀ files, outcome files = other files) : Reads work other := by
  intro workspace
  rw [← same]
  exact reads workspace

theorem reads_pure (value : α) : Reads (pure value) fun _ => .ok value :=
  fun workspace => ⟨workspace.log, rfl⟩

theorem reads_lift (outcome : Except Failure α) :
    Reads (liftM outcome) fun _ => outcome :=
  fun workspace => ⟨workspace.log, rfl⟩

theorem reads_report (events : Log) : Reads (report events) fun _ => .ok () :=
  fun workspace => ⟨workspace.log ++ events, rfl⟩

theorem reads_note (level : LogLevel) (message : Text) :
    Reads (note level message) fun _ => .ok () :=
  reads_report _

theorem reads_files : Reads files .ok :=
  fun workspace => ⟨workspace.log, rfl⟩

theorem reads_readText (path : Path) :
    Reads (readText path) fun files =>
      (files.readText path).mapError (.read path) := by
  intro workspace
  refine ⟨workspace.log, ?_⟩
  rw [readText, run_bind, run_files]
  dsimp only
  cases workspace.files.readText path <;> rfl

theorem Reads.bind {work : Work α} {next : α → Work β}
    {outcome : FileSystem → Except Failure α}
    {nextOutcome : α → FileSystem → Except Failure β}
    (first : Reads work outcome)
    (second : ∀ value, Reads (next value) (nextOutcome value)) :
    Reads (work >>= next) fun files =>
      outcome files >>= fun value => nextOutcome value files := by
  intro workspace
  obtain ⟨log, firstRun⟩ := first workspace
  rw [run_bind, firstRun]
  dsimp only
  cases outcome workspace.files with
  | error failure =>
      exact ⟨log, rfl⟩
  | ok value =>
      exact second value { workspace with log }

/-- What follows work that only reads starts from the same files. -/
theorem Reads.run_bind_eq_ok {work : Work α} {next : α → Work β} {result : β}
    {outcome : FileSystem → Except Failure α} (reads : Reads work outcome)
    (ran : (work >>= next).run before = (.ok result, after)) :
    ∃ value log, outcome before.files = .ok value ∧
      (next value).run { before with log } = (.ok result, after) := by
  obtain ⟨value, middle, first, second⟩ := run_bind_eq_ok_iff.mp ran
  obtain ⟨log, firstRun⟩ := reads before
  rw [firstRun, Prod.mk.injEq] at first
  exact ⟨value, log, first.1, first.2 ▸ second⟩

/-! ## Work for each item -/

/-- Work that succeeds for one item after the other. -/
inductive RunsEach (work : α → Work β) :
    List α → Workspace → List β → Workspace → Prop
  | nil (workspace : Workspace) : RunsEach work [] workspace [] workspace
  | cons {item : α} {items : List α} {value : β} {values : List β}
      {before middle after : Workspace} :
      (work item).run before = (.ok value, middle) →
      RunsEach work items middle values after →
      RunsEach work (item :: items) before (value :: values) after

end Work

namespace FailurePolicy

open Work

variable {α β : Type} {work : α → Work β} {policy : FailurePolicy}
  {before after : Workspace}

theorem run_forEach (policy : FailurePolicy) (items : List α)
    (work : α → Work β) (workspace : Workspace) :
    (policy.forEach items work).run workspace =
      (policy.settle (policy.runEach work items workspace).1,
        (policy.runEach work items workspace).2) :=
  rfl

theorem runEach_cons (policy : FailurePolicy) (work : α → Work β) (item : α)
    (items : List α) (workspace : Workspace) :
    policy.runEach work (item :: items) workspace =
      match (work item).run workspace, policy with
      | (.error failure, after), .failFast => ([.error failure], after)
      | (outcome, after), _ =>
          (outcome :: (policy.runEach work items after).1,
            (policy.runEach work items after).2) :=
  rfl

theorem runEach_cons_ok {item : α} {value : β}
    (ran : (work item).run before = (.ok value, after)) (items : List α) :
    policy.runEach work (item :: items) before =
      (.ok value :: (policy.runEach work items after).1,
        (policy.runEach work items after).2) := by
  rw [runEach_cons, ran]

theorem runEach_collectAll_cons {item : α} {outcome : Except Failure β}
    (ran : (work item).run before = (outcome, after)) (items : List α) :
    collectAll.runEach work (item :: items) before =
      (outcome :: (collectAll.runEach work items after).1,
        (collectAll.runEach work items after).2) := by
  rw [runEach_cons, ran]
  cases outcome <;> rfl

theorem runEach_failFast_cons_error {item : α} {failure : Failure}
    (ran : (work item).run before = (.error failure, after)) (items : List α) :
    failFast.runEach work (item :: items) before =
      ([.error failure], after) := by
  rw [runEach_cons, ran]

/-- Work for each item succeeds only if it does for one after the other. -/
theorem runsEach_of_forEach {items : List α} {values : List β}
    (ran : (policy.forEach items work).run before = (.ok values, after)) :
    RunsEach work items before values after := by
  rw [run_forEach, Prod.mk.injEq, settle_eq_ok_iff] at ran
  obtain ⟨outcomes, last⟩ := ran
  induction items generalizing before values with
  | nil =>
      cases values with
      | nil =>
          cases last
          exact .nil before
      | cons value values =>
          cases outcomes
  | cons item items inductionHypothesis =>
      rcases step : (work item).run before with ⟨failure | value, middle⟩
      · -- A failed item leaves its failure among the outcomes.
        have failed :
            ∃ rest, (policy.runEach work (item :: items) before).1 =
              .error failure :: rest := by
          cases policy with
          | failFast => exact ⟨[], by rw [runEach_failFast_cons_error step]⟩
          | collectAll => exact ⟨_, by rw [runEach_collectAll_cons step]⟩
        obtain ⟨rest, restEq⟩ := failed
        rw [restEq] at outcomes
        cases values <;> cases outcomes
      · rw [runEach_cons_ok step] at outcomes last
        cases values with
        | nil =>
            cases outcomes
        | cons first values =>
            obtain ⟨firstEq, restEq⟩ := List.cons.inj outcomes
            cases firstEq
            exact .cons step (inductionHypothesis restEq last)

/-- Under either policy, work that succeeds for one item after the other does so
for each. -/
theorem forEach_of_runsEach {items : List α} {values : List β}
    (runs : RunsEach work items before values after) (policy : FailurePolicy) :
    (policy.forEach items work).run before = (.ok values, after) := by
  have ran : policy.runEach work items before = (values.map .ok, after) := by
    induction runs with
    | nil workspace =>
        rfl
    | cons step _ inductionHypothesis =>
        rw [runEach_cons_ok step, inductionHypothesis, List.map_cons]
  rw [run_forEach, ran, settle_eq_ok_iff.mpr rfl]

/-- Under either policy, reading each item gives what the policy makes of all
outcomes. -/
theorem reads_forEach {outcome : α → FileSystem → Except Failure β}
    (reads : ∀ item, Reads (work item) (outcome item)) (policy : FailurePolicy)
    (items : List α) :
    Reads (policy.forEach items work) fun files =>
      policy.settle (items.map fun item => outcome item files) := by
  intro workspace
  rw [run_forEach]
  dsimp only
  cases policy with
  | collectAll =>
      have ran : ∃ log,
          collectAll.runEach work items workspace =
            (items.map fun item => outcome item workspace.files,
              { workspace with log }) := by
        induction items generalizing workspace with
        | nil =>
            exact ⟨workspace.log, rfl⟩
        | cons item items inductionHypothesis =>
            obtain ⟨log, step⟩ := reads item workspace
            obtain ⟨lastLog, rest⟩ :=
              inductionHypothesis { workspace with log }
            exact ⟨lastLog, by
              rw [runEach_collectAll_cons step, rest, List.map_cons]⟩
      obtain ⟨log, ran⟩ := ran
      exact ⟨log, by rw [ran]⟩
  | failFast =>
      induction items generalizing workspace with
      | nil =>
          exact ⟨workspace.log, rfl⟩
      | cons item items inductionHypothesis =>
          obtain ⟨log, step⟩ := reads item workspace
          rw [List.map_cons]
          cases result : outcome item workspace.files with
          | error failure =>
              rw [result] at step
              refine ⟨log, ?_⟩
              rw [runEach_failFast_cons_error step, settle_failFast_error,
                settle_failFast_error]
          | ok value =>
              rw [result] at step
              obtain ⟨lastLog, rest⟩ :=
                inductionHypothesis { workspace with log }
              refine ⟨lastLog, ?_⟩
              rw [Prod.mk.injEq] at rest
              rw [runEach_cons_ok step, settle_failFast_ok, rest.1, rest.2,
                settle_failFast_ok]

end FailurePolicy

end Marginalia
