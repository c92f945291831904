import Marginalia.Program

/-!
# The executable

The parts of the disk that a run looks at are loaded, the program runs on them,
and what it changed is stored.
-/

namespace Marginalia.Main

def diskPath (location : Location) : String :=
  String.ofList ('/' :: Text.joined ['/'] location)

def locationOf (path : String) : Location :=
  (Text.splitAtEach '/' path.toList).filter fun name => !name.isEmpty

def diskEntry? (location : Location) : IO (Option Entry) := do
  try
    let path ← IO.FS.realPath (diskPath location)
    if ← path.isDir then return some .directory
    return some (.file (.ofBytes (← IO.FS.readBinFile path).toList))
  catch _ => return none

def loadEntry (files : FileSystem) (location : Location) : IO FileSystem := do
  match ← diskEntry? location with
  | some entry => return files.put location entry
  | none => return files

/-- The locations on the way along some names, last first. -/
def locationsAlong (names : List Text) (start : Location) : List Location :=
  names.foldl (fun along name =>
    let current := along.headD start
    if name.isEmpty || name = ['.'] then along
    else if name = ['.', '.'] then current.dropLast :: along
    else (current ++ [name]) :: along) []

def loadPath (files : FileSystem) (path : Path) : IO FileSystem :=
  (locationsAlong (Text.splitAtEach '/' path.text)
    (files.start path)).reverse.foldlM loadEntry files

/-- Load the entries in a directory, down to a depth. -/
def loadBelow : Nat → FileSystem → Location → IO FileSystem
  | 0, files, _ => return files
  | depth + 1, files, location => do
      if (← diskEntry? location) ≠ some .directory then return files
      let path ← IO.FS.realPath (diskPath location)
      (← path.readDir).foldlM (fun files child => do
        let below := location ++ [child.fileName.toList]
        loadBelow depth (← loadEntry files below) below) files

/-- Load a directory that a path names, with its entries. -/
def loadDirectory (files : FileSystem) (path : Path) : IO FileSystem := do
  let files ← loadPath files path
  match files.locate path with
  | .ok location => loadBelow 2 files location
  | .error _ => return files

def store (before after : FileSystem) : IO Unit :=
  after.entries.forM fun (location, entry) => do
    if before.entry? location ≠ some entry then
      match entry with
      | .directory => IO.FS.createDirAll (diskPath location)
      | .file (.text text) =>
          IO.FS.writeFile (diskPath location) (String.ofList text)
      | .file (.binary bytes) =>
          IO.FS.writeBinFile (diskPath location) ⟨bytes.toArray⟩

def environment : IO Environment := do
  let configHome ← IO.getEnv "XDG_CONFIG_HOME"
  let home ← IO.getEnv "HOME"
  return {
    configHome := configHome.map fun path => ⟨path.toList⟩
    home := ⟨(home.getD "/").toList⟩ }

/-- Load what a run with some arguments looks at. -/
def load (environment : Environment) (arguments : Arguments) :
    IO FileSystem := do
  let workingDirectory := locationOf (← IO.currentDir).toString
  let files ← loadPath { workingDirectory } ⟨diskPath workingDirectory |>.toList⟩
  let files ← loadPath files environment.logDirectory
  let files ← loadPath files environment.settingsFile
  let files ← loadPath files Settings.localFile
  let files ← arguments.config.toList.foldlM loadPath files
  let loading :=
    match arguments.config with
    | some path => Settings.load path
    | none => Settings.discover environment
  match (loading.run { files }).1 with
  | .error _ => return files
  | .ok loaded =>
      let settings := arguments.apply loaded
      let files ← loadDirectory files settings.input
      let files ← loadDirectory files settings.output
      loadPath files (settings.output.join ⟨settings.stylesheet⟩)

/-- Append the log of a run to the log file of the user. -/
def storeLog (environment : Environment) (log : Log) : IO Unit := do
  let file := environment.logDirectory.join "lazylit.log"
  try
    IO.FS.withFile (String.ofList file.text) .append fun handle =>
      log.forM fun event => handle.putStrLn (String.ofList event.line)
  catch _ => return

/-- Run the program on the disk. -/
def execute (given : List Text) : IO Exit := do
  let environment ← environment
  let files ←
    match Arguments.read given with
    | .ok arguments => load environment arguments
    | .error _ => pure {}
  let (exit, workspace) := Program.run environment 1 given files
  store files workspace.files
  storeLog environment workspace.log
  for event in workspace.log do
    if event.level ≠ .debug then IO.eprintln (String.ofList event.line)
  return exit

end Marginalia.Main

/-- Generate the site that the command line asks for. -/
def main (given : List String) : IO UInt32 := do
  let exit ← Marginalia.Main.execute (given.map String.toList)
  IO.print (String.ofList exit.output)
  IO.eprint (String.ofList exit.errors)
  return exit.code.toUInt32
