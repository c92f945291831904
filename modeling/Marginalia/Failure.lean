import Marginalia.Highlight.Span
import Marginalia.Snapshot

/-!
# Failures and reports

Everything that can stop a run, with its message. A run that goes on after
failures reports them together. What happens on the way goes to the log.
-/

namespace Marginalia

/-! ## The log -/

/-- How much an event matters. -/
inductive LogLevel where
  | debug
  | info
  | warn
  deriving DecidableEq

def LogLevel.name : LogLevel → Text
  | .debug => "DEBUG"
  | .info => "INFO"
  | .warn => "WARN"

/-- Something that a run reports on its way. -/
structure LogEvent where
  level : LogLevel
  message : Text
  deriving DecidableEq

def LogEvent.line (event : LogEvent) : Text :=
  event.level.name ++ " " ++ event.message

abbrev Log := List LogEvent

/-! ## Failures -/

/-- Why the file system refuses an operation. -/
inductive FileFault where
  | notFound
  | notDirectory
  | isDirectory
  | alreadyExists
  | notText
  | other (description : Text)
  deriving DecidableEq

def FileFault.message : FileFault → Text
  | .notFound => "No such file or directory (os error 2)"
  | .notDirectory => "Not a directory (os error 20)"
  | .isDirectory => "Is a directory (os error 21)"
  | .alreadyExists => "File exists (os error 17)"
  | .notText => "stream did not contain valid UTF-8"
  | .other description => description

/-- Why a run, or a part of it, fails. -/
inductive Failure where
  | read (path : Path) (fault : FileFault)
  | write (path : Path) (fault : FileFault)
  | missingInput (path : Path)
  | unsupportedLanguage (path : Path)
  | missingHeaders (path : Path) (missing : List HeaderField)
  | invalidCommitDate (path : Path) (value : Text) (fault : CommitDateError)
  | highlight (path : Path) (fault : HighlightError)
  | settings (description : Text)
  /-- The workers cannot be started. Here pages are written one after the other,
  so no run ends so. -/
  | workers (fault : Text)
  | aggregate (failures : List Failure) (total : Nat)

namespace Failure

/-- Failures of a run as one failure. A single failure stands for itself. -/
def collect (failures : List Failure) (total : Nat) : Failure :=
  match failures with
  | [failure] => failure
  | _ => .aggregate failures total

mutual

def message : Failure → Text
  | .read path fault =>
      "failed to read " ++ path.text ++ ": " ++ fault.message
  | .write path fault =>
      "failed to write " ++ path.text ++ ": " ++ fault.message
  | .missingInput path => "no artifacts directory found at " ++ path.text
  | .unsupportedLanguage path =>
      path.text ++ ": no language registered for this file extension"
  | .missingHeaders path missing =>
      path.text ++ " is missing headers: " ++
        Text.joined ", " (missing.map HeaderField.key)
  | .invalidCommitDate path value fault =>
      "unable to parse headers for " ++ path.text ++ ": invalid CommitDate " ++
        value.quoted ++ ": " ++ fault.message
  | .highlight path fault =>
      "failed to highlight " ++ path.text ++ ": " ++ fault.message
  | .settings description => "invalid configuration: " ++ description
  | .workers fault => "failed to start worker pool: " ++ fault
  | .aggregate failures total =>
      Text.ofNat failures.length ++ " of " ++ Text.ofNat total ++
        " tasks failed:\n" ++ Text.joined "\n" (bullets failures)

/-- One line of a report for each failure. -/
def bullets : List Failure → List Text
  | [] => []
  | failure :: failures => ("  - " ++ failure.message) :: bullets failures

end

/-- The messages of what lies behind a failure, the nearest cause first. -/
def causes : Failure → List Text
  | .read _ fault => [fault.message]
  | .write _ fault => [fault.message]
  | .invalidCommitDate _ _ fault => [fault.message]
  | .highlight _ fault => fault.message :: fault.causes
  | .workers fault => [fault]
  | _ => []

end Failure

/-- What to do when one of several tasks fails. -/
inductive FailurePolicy where
  /-- Stop at the first failure. -/
  | failFast
  /-- Go on, and report all failures at the end. -/
  | collectAll
  deriving DecidableEq

namespace FailurePolicy

variable {α : Type}

/-- The values of tasks that all succeed, or the first failure. The tasks after
the first failure are not looked at. -/
def untilFailure : List (Except Failure α) → Except Failure (List α)
  | [] => .ok []
  | .error failure :: _ => .error failure
  | .ok value :: results => (untilFailure results).map (value :: ·)

/-- The values and the failures of tasks, each in the order of the tasks. -/
def sortOut : List (Except Failure α) → List α × List Failure
  | [] => ([], [])
  | .ok value :: results =>
      let (values, failures) := sortOut results
      (value :: values, failures)
  | .error failure :: results =>
      let (values, failures) := sortOut results
      (values, failure :: failures)

/-- The values of tasks that all succeed, or the failure that a policy
reports. -/
def settle (policy : FailurePolicy) (results : List (Except Failure α)) :
    Except Failure (List α) :=
  match policy with
  | .failFast => untilFailure results
  | .collectAll =>
      match sortOut results with
      | (values, []) => .ok values
      | (_, failures) => .error (.collect failures results.length)

end FailurePolicy

end Marginalia
