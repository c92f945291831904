import Marginalia.Settings.Basic

/-!
# The command line

Flags may be given by a letter or by a name. Letters may stand together after
one hyphen, and the last of them may be followed by its value. A flag that
takes a value is checked when the next flag comes, or at the end.
-/

namespace Marginalia

inductive Flag where
  | config
  | input
  | output
  | jobs
  | keepGoing
  | help
  | version
  deriving DecidableEq

namespace Flag

/-- All flags, in the order in which help lists them. -/
def all : List Flag :=
  [.config, .input, .output, .jobs, .keepGoing, .help, .version]

def letter : Flag → Char
  | .config => 'c'
  | .input => 'i'
  | .output => 'o'
  | .jobs => 'j'
  | .keepGoing => 'k'
  | .help => 'h'
  | .version => 'V'

def name : Flag → Text
  | .config => "config"
  | .input => "input"
  | .output => "output"
  | .jobs => "jobs"
  | .keepGoing => "keep-going"
  | .help => "help"
  | .version => "version"

/-- What help calls the value of a flag, if it takes one. -/
def valueName? : Flag → Option Text
  | .config => some "FILE".toList
  | .input => some "DIR".toList
  | .output => some "DIR".toList
  | .jobs => some "N".toList
  | _ => none

def takesValue (flag : Flag) : Bool := flag.valueName?.isSome

def ofLetter? (c : Char) : Option Flag :=
  all.find? fun flag => flag.letter = c

def ofName? (name : Text) : Option Flag :=
  all.find? fun flag => flag.name = name

def shown (flag : Flag) : Text :=
  "--" ++ flag.name ++
    match flag.valueName? with
    | some value => " <" ++ value ++ ">"
    | none => []

def purpose (isLong : Bool) : Flag → Text
  | .config =>
      "Config file to use instead of ./lazylit.yaml or the per-user config"
  | .input => "Directory holding one subdirectory per artifact"
  | .output => "Directory to write the generated site into"
  | .jobs => "Number of worker threads"
  | .keepGoing =>
      "Keep going after a failure and report every failure at the end"
  | .help =>
      if isLong then "Print help (see a summary with '-h')"
      else "Print help (see more with '--help')"
  | .version => "Print version"

def synopsis (flag : Flag) : Text :=
  ['-', flag.letter] ++ ", " ++ flag.shown

end Flag

/-! ## Help -/

namespace Help

/-- The usage line, with the flags in use if there are any. -/
def usage (used : List Flag) : Text :=
  "Usage: lazylit" ++
    if used.isEmpty then " [OPTIONS]".toList
    else used.flatMap fun flag => ' ' :: flag.shown

def synopsisWidth : Nat :=
  (Flag.all.map fun flag => flag.synopsis.length).foldl max 0

def shortLine (flag : Flag) : Text :=
  let synopsis := flag.synopsis
  let gap := List.replicate (synopsisWidth - synopsis.length + 2) ' '
  "  " ++ synopsis ++ gap ++ flag.purpose false ++ "\n"

def longLines (flag : Flag) : Text :=
  "  " ++ flag.synopsis ++ "\n          " ++ flag.purpose true ++ "\n"

/-- What the program does, in one line. -/
def summary : Text :=
  "Generate cross-linked HTML notes from annotated source snapshots"

/-- What the program reads and writes. -/
def details : Text :=
  Text.joined "\n" [
    "Input is read from <input>/<artifact>/<file>, where every file begins with a",
    "comment header (Commit, CommitDate, SourceFile, SourceLink, DocAuthor).",
    "Output goes to <output>/<artifact>/<file>.html, with an index page per",
    "artifact and a landing page listing every artifact."]

def short : Text :=
  summary ++ "\n\n" ++ usage [] ++ "\n\nOptions:\n" ++
    Flag.all.flatMap shortLine

def long : Text :=
  summary ++ ".\n\n" ++ details ++ "\n\n" ++ usage [] ++ "\n\nOptions:\n" ++
    Text.joined "\n" (Flag.all.map longLines)

def version : Text := "lazylit 0.3.0\n"

end Help

/-! ## Errors -/

/-- Why a text is no number of workers. -/
inductive NumberFault where
  | empty
  | invalidDigit
  | tooLarge
  deriving DecidableEq

def NumberFault.message : NumberFault → Text
  | .empty => "cannot parse integer from empty string"
  | .invalidDigit => "invalid digit found in string"
  | .tooLarge => "number too large to fit in target type"

/-- Why a command line is not run: it asks for help or for the version, or it
is wrong. -/
inductive CommandStop where
  | help (isLong : Bool)
  | version
  | unknown (argument : Text) (used : List Flag)
  | missingValue (flag : Flag)
  | invalidNumber (value : Text) (flag : Flag) (fault : NumberFault)
  | repeated (flag : Flag)
  | unexpectedValue (value : Text) (flag : Flag) (used : List Flag)
  deriving DecidableEq

namespace CommandStop

def hint : Text := "\n\nFor more information, try '--help'.\n"

/-- What is printed in place of a run. -/
def message : CommandStop → Text
  | .help isLong => if isLong then Help.long else Help.short
  | .version => Help.version
  | .unknown argument used =>
      "error: unexpected argument '" ++ argument ++ "' found\n\n" ++
        Help.usage used ++ hint
  | .missingValue flag =>
      "error: a value is required for '" ++ flag.shown ++
        "' but none was supplied" ++ hint
  | .invalidNumber value flag fault =>
      "error: invalid value '" ++ value ++ "' for '" ++ flag.shown ++ "': " ++
        fault.message ++ hint
  | .repeated flag =>
      "error: the argument '" ++ flag.shown ++
        "' cannot be used multiple times\n\n" ++ Help.usage [] ++ hint
  | .unexpectedValue value flag used =>
      "error: unexpected value '" ++ value ++ "' for '" ++ flag.shown ++
        "' found; no more were expected\n\n" ++ Help.usage used ++ hint

/-- Whether the command line asked for what is printed. -/
def isRequested : CommandStop → Bool
  | .help _ => true
  | .version => true
  | _ => false

end CommandStop

/-! ## Arguments -/

/-- What a command line asks for. -/
structure Arguments where
  config : Option Path := none
  input : Option Path := none
  output : Option Path := none
  jobs : Option Nat := none
  keepsGoing : Bool := false
  deriving DecidableEq

/-- Settings with what the command line asks for. -/
def Arguments.apply (arguments : Arguments) (settings : Settings) : Settings :=
  { settings with
    input := arguments.input.getD settings.input
    output := arguments.output.getD settings.output
    jobs := arguments.jobs.or settings.jobs
    policy := if arguments.keepsGoing then .collectAll else settings.policy }

/-- Read digits onto a number read so far. The first digit that is wrong or
takes the number beyond 64 bits is reported. -/
def readWorkersFrom : Nat → Text → Except NumberFault Nat
  | number, [] => .ok number
  | number, c :: rest =>
      match Text.digitValue? 10 c with
      | none => .error .invalidDigit
      | some digit =>
          if number * 10 + digit < 2 ^ 64 then
            readWorkersFrom (number * 10 + digit) rest
          else .error .tooLarge

/-- Read a number of workers: digits after an optional plus sign. -/
def readWorkers : Text → Except NumberFault Nat
  | [] => .error .empty
  | ['+'] => .error .invalidDigit
  | '+' :: digits => readWorkersFrom 0 digits
  | digits => readWorkersFrom 0 digits

/-- A flag that waits for its value, or has it but is not checked yet. -/
structure PendingFlag where
  flag : Flag
  value : Option Text

structure ArgumentReader where
  arguments : Arguments := {}
  /-- The flags checked so far, in their order. -/
  used : List Flag := []
  pending : Option PendingFlag := none
  /-- Whether only positional arguments may follow. -/
  isClosed : Bool := false

namespace ArgumentReader

/-- Note a flag, which may be given once. -/
def note (reader : ArgumentReader) (flag : Flag) :
    Except CommandStop ArgumentReader :=
  if reader.used.contains flag then .error (.repeated flag)
  else .ok { reader with used := reader.used ++ [flag] }

def takeValue (reader : ArgumentReader) (flag : Flag) (value : Text) :
    Except CommandStop ArgumentReader := do
  let reader ← reader.note flag
  let arguments := reader.arguments
  let path? : Except CommandStop (Option Path) :=
    if value.isEmpty then .error (.missingValue flag) else .ok (some ⟨value⟩)
  match flag with
  | .config =>
      return { reader with arguments := { arguments with config := ← path? } }
  | .input =>
      return { reader with arguments := { arguments with input := ← path? } }
  | .output =>
      return { reader with arguments := { arguments with output := ← path? } }
  | .jobs =>
      match readWorkers value with
      | .ok number =>
          return { reader with
            arguments := { arguments with jobs := some number } }
      | .error fault => throw (.invalidNumber value flag fault)
  | _ => return reader

/-- Check the flag that is pending. -/
def settle (reader : ArgumentReader) : Except CommandStop ArgumentReader :=
  match reader.pending with
  | none => .ok reader
  | some ⟨flag, none⟩ => .error (.missingValue flag)
  | some ⟨flag, some value⟩ =>
      { reader with pending := none }.takeValue flag value

/-- Take a flag that has no value. -/
def takeFlag (reader : ArgumentReader) (flag : Flag) (isLong : Bool) :
    Except CommandStop ArgumentReader := do
  let reader ← reader.settle
  match flag with
  | .help => throw (.help isLong)
  | .version => throw .version
  | _ =>
      let reader ← reader.note flag
      return { reader with
        arguments := { reader.arguments with keepsGoing := true } }

/-- Take a flag that wants a value, with what is attached to it. -/
def takeOption (reader : ArgumentReader) (flag : Flag)
    (attached : Option Text) : Except CommandStop ArgumentReader := do
  let reader ← reader.settle
  match attached with
  | some value => reader.takeValue flag value
  | none => return { reader with pending := some ⟨flag, none⟩ }

/-- Take a flag by its name, with what stands after an equals sign. -/
def takeName (reader : ArgumentReader) (name : Text) (attached : Option Text) :
    Except CommandStop ArgumentReader :=
  match Flag.ofName? name with
  | none => .error (.unknown ("--" ++ name) reader.used)
  | some flag =>
      if flag.takesValue then reader.takeOption flag attached
      else
        match attached with
        | some value =>
            let used :=
              if reader.used.contains flag then reader.used
              else reader.used ++ [flag]
            .error (.unexpectedValue value flag used)
        | none => reader.takeFlag flag true

/-- Take flags by their letters. What follows the letter of a flag with a value
is the value, with or without an equals sign. -/
def takeLetters : ArgumentReader → Text → Except CommandStop ArgumentReader
  | reader, [] => .ok reader
  | reader, c :: rest =>
      match Flag.ofLetter? c with
      | none => .error (.unknown ['-', c] [])
      | some flag =>
          if flag.takesValue then
            match rest with
            | [] => reader.takeOption flag none
            | '=' :: value => reader.takeOption flag (some value)
            | value => reader.takeOption flag (some value)
          else
            match reader.takeFlag flag false with
            | .ok reader => reader.takeLetters rest
            | .error stop => .error stop

/-- Take an argument that is no flag: the value of the pending flag, if it
waits for one. -/
def takePlain (reader : ArgumentReader) (argument : Text) :
    Except CommandStop ArgumentReader :=
  match reader.pending, reader.isClosed with
  | some ⟨flag, none⟩, false =>
      .ok { reader with pending := some ⟨flag, some argument⟩ }
  | _, _ => .error (.unknown argument [])

def take (reader : ArgumentReader) (argument : Text) :
    Except CommandStop ArgumentReader :=
  if reader.isClosed then reader.takePlain argument
  else
    match argument with
    | ['-', '-'] => .ok { reader with isClosed := true }
    | '-' :: '-' :: rest =>
        let name := rest.takeWhile (· != '=')
        match rest.dropWhile (· != '=') with
        | [] => reader.takeName name none
        | _ :: value => reader.takeName name (some value)
    | '-' :: c :: rest => reader.takeLetters (c :: rest)
    | _ => reader.takePlain argument

end ArgumentReader

/-- Read the arguments of a command line, without the name of the program. -/
def Arguments.read (arguments : List Text) : Except CommandStop Arguments := do
  let reader ← arguments.foldlM ArgumentReader.take {}
  let reader ← reader.settle
  return reader.arguments

end Marginalia
