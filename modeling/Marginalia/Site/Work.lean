import Marginalia.FileSystem

/-!
# Work on files

A piece of work changes the files and writes to the log, and succeeds or
fails. What it did before it failed stays done.
-/

namespace Marginalia

/-- The files that a run works on, and its log so far. -/
structure Workspace where
  files : FileSystem
  log : Log := []
  deriving DecidableEq

/-- Work on files that may fail. -/
abbrev Work := ExceptT Failure (StateM Workspace)

namespace Work

def run {α : Type} (work : Work α) (workspace : Workspace) :
    Except Failure α × Workspace :=
  StateT.run (ExceptT.run work) workspace

/-- The work with a given outcome. -/
def of {α : Type} (step : Workspace → Except Failure α × Workspace) : Work α :=
  ExceptT.mk step

def report (events : Log) : Work Unit :=
  modify fun workspace => { workspace with log := workspace.log ++ events }

def note (level : LogLevel) (message : Text) : Work Unit :=
  report [⟨level, message⟩]

def files : Work FileSystem := do
  return (← get).files

def readText (path : Path) : Work Text := do
  match (← files).readText path with
  | .ok text => return text
  | .error fault => throw (.read path fault)

def makeDirectories (path : Path) : Work Unit :=
  of fun workspace =>
    match workspace.files.makeDirectories path with
    | (.ok _, files) => (.ok (), { workspace with files })
    | (.error fault, files) =>
        (.error (.write path fault), { workspace with files })

/-- Make the directory that a file stands in. -/
def makeParent (path : Path) : Work Unit :=
  match path.parent? with
  | some parent => makeDirectories parent
  | none => pure ()

/-- Write a file in a directory that is there. -/
def store (path : Path) (contents : Contents) : Work Unit := do
  match (← files).write path contents with
  | .ok files => modify fun workspace => { workspace with files }
  | .error fault => throw (.write path fault)

/-- Write a file, in a directory that is made if need be. -/
def write (path : Path) (contents : Contents) : Work Unit := do
  makeParent path
  store path contents

def writeText (path : Path) (text : Text) : Work Unit :=
  write path (.text text)

end Work

namespace FailurePolicy

/-- Do a piece of work for each item in order and keep the outcomes. Under the policy
that stops at a failure, the items after it are left alone. -/
def runEach {α β : Type} (policy : FailurePolicy) (work : α → Work β) :
    List α → Workspace → List (Except Failure β) × Workspace
  | [], workspace => ([], workspace)
  | item :: items, workspace =>
      match (work item).run workspace, policy with
      | (.error failure, after), .failFast => ([.error failure], after)
      | (outcome, after), _ =>
          let (outcomes, last) := runEach policy work items after
          (outcome :: outcomes, last)

/-- Do a piece of work for each item in order, and settle the outcomes. -/
def forEach {α β : Type} (policy : FailurePolicy) (items : List α)
    (work : α → Work β) : Work (List β) :=
  .of fun workspace =>
    let (outcomes, after) := policy.runEach work items workspace
    (policy.settle outcomes, after)

end FailurePolicy

end Marginalia
