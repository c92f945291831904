import Marginalia.Command
import Marginalia.Grammar.Builtin
import Marginalia.Markdown.Writer
import Marginalia.Settings.Discovery
import Marginalia.Site.Generation

/-!
# The program

A run of the program reads its command line and its settings, generates the
site and ends with an exit code and what it prints.
-/

namespace Marginalia

/-- How a run of the program ends. -/
structure Exit where
  code : Nat := 0
  /-- What goes to the standard output. -/
  output : Text := []
  /-- What goes to the standard error. -/
  errors : Text := []
  deriving DecidableEq

namespace Program

/-- Generate the site that a command line asks for. -/
def perform (environment : Environment) (processors : Nat)
    (arguments : Arguments) (highlighter : Highlighter) : Work Unit := do
  let loaded ←
    match arguments.config with
    | some path => Settings.load path
    | none => Settings.discover environment
  let settings := arguments.apply loaded
  let report ← Generator.generate
    { settings, processors, highlighter, markdown := Markdown.toHtml }
  Work.note .info ("Wrote " ++ Text.ofNat report.pages.length ++
    " pages for " ++ Text.ofNat report.artifacts ++ " artifacts to " ++
    settings.output.text)

/-- One of several causes in a report, on a line of its own. -/
def numberedCause (number : Nat) (cause : Text) : Text :=
  "    " ++ Text.ofNat number ++ ": " ++ cause ++ "\n"

/-- The report of an error with what lies behind it. Several causes are
numbered. -/
def errorReport (message : Text) (causes : List Text) : Text :=
  "Error: " ++ message ++ "\n" ++
    match causes with
    | [] => []
    | [cause] => "\nCaused by:\n    " ++ cause ++ "\n"
    | _ => "\nCaused by:\n" ++ (causes.mapIdx numberedCause).flatten

/-- Run the program after its command line has been read. -/
def start (environment : Environment) (processors : Nat)
    (arguments : Arguments) (files : FileSystem) : Exit × Workspace :=
  let (logDirectory, files) := environment.ensureLogDirectory files
  let warning : Text :=
    match logDirectory with
    | .ok _ => []
    | .error description =>
        "Warning: Could not initialize file logging: " ++ description ++ "\n"
  match Grammar.highlighter Registry.builtin with
  | .error fault =>
      ({ code := 1
         errors := warning ++ errorReport
          "Failed to load syntax highlighting grammars" (fault.message :: fault.causes) },
        { files })
  | .ok highlighter =>
      match (perform environment processors arguments highlighter).run
          { files } with
      | (.ok _, workspace) => ({ errors := warning }, workspace)
      | (.error failure, workspace) =>
          ({ code := 1
             errors := warning ++
              errorReport failure.message failure.causes },
            workspace)

def run (environment : Environment) (processors : Nat) (arguments : List Text)
    (files : FileSystem) : Exit × Workspace :=
  match Arguments.read arguments with
  | .ok arguments => start environment processors arguments files
  | .error stop =>
      if stop.isRequested then ({ output := stop.message }, { files })
      else ({ code := 2, errors := stop.message }, { files })

end Program

end Marginalia
