import Marginalia.Settings.Reader
import Marginalia.Site.Work

/-!
# Where settings come from

Settings are in a file that the command line names, in a file of the working
directory, or in a file of the user. Where none is found the defaults hold.
-/

namespace Marginalia

/-- The directories of a user. -/
structure Environment where
  /-- The directory for settings of programs, if there is one. -/
  configHome : Option Path := none
  home : Path

namespace Environment

/-- The user's directory for this program. -/
def directory (environment : Environment) : Path :=
  (environment.configHome.getD (environment.home.join ".config")).join
    "lazylit"

def settingsFile (environment : Environment) : Path :=
  environment.directory.join "config.yaml"

def logDirectory (environment : Environment) : Path :=
  environment.directory.join "logs"

/-- Make the user's directory for log files. A fault is told in words. -/
def ensureLogDirectory (environment : Environment) (files : FileSystem) :
    Except Text Path × FileSystem :=
  let path := environment.logDirectory
  match files.makeDirectories path with
  | (.ok _, files) => (.ok path, files)
  | (.error fault, files) =>
      (.error ("Failed to create directory " ++ path.text ++ ": " ++
        fault.message), files)

end Environment

namespace Settings

/-- The file with settings in the working directory. -/
def localFile : Path := "lazylit.yaml"

/-- Load settings from a file that was asked for. -/
def load (path : Path) : Work Settings := do
  let text ← Work.readText path
  match ofYaml text with
  | .ok settings =>
      Work.note .info ("Loaded config from " ++ path.text)
      return settings
  | .error error => throw (.settings (path.text ++ ": " ++ error.message))

/-- Load settings from a file that was found; if it is of no use, the defaults
hold. -/
def loadFound (path : Path) : Work Settings := do
  match (← Work.files).readText path with
  | .error fault =>
      Work.note .warn ("Failed to read config at " ++ path.text ++ ": " ++
        fault.message)
      return {}
  | .ok text =>
      match ofYaml text with
      | .ok settings =>
          Work.note .info ("Loaded config from " ++ path.text)
          return settings
      | .error error =>
          Work.note .warn ("Failed to parse config at " ++ path.text ++ ": " ++
            (Failure.settings error.message).message)
          return {}

/-- Load settings from where they are found first. -/
def discover (environment : Environment) : Work Settings := do
  let files ← Work.files
  let path := environment.settingsFile
  if files.isFile localFile then loadFound localFile
  else if files.names path then loadFound path
  else do
    Work.note .debug ("Config file not found at " ++ path.text ++
      ", using defaults")
    return {}

end Settings

end Marginalia
