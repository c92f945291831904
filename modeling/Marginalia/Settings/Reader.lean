import Marginalia.Settings.Basic
import Marginalia.Yaml.Event
import Marginalia.Yaml.Scalar

/-!
# Settings from a document

Settings are read from a mapping. A field that is not named keeps its default,
and unknown keys are ignored. The first field that does not fit is reported
with its name and position, even when the text has a fault further on.
-/

namespace Marginalia

/-- How a part of a document does not fit. -/
inductive Mismatch where
  | wrongType (found wanted : Text)
  | wrongValue (found wanted : Text)
  | unknownPolicy (name : Text)
  | repeatedField (key : Text)
  deriving DecidableEq

def Mismatch.message : Mismatch → Text
  | .wrongType found wanted =>
      "invalid type: " ++ found ++ ", expected " ++ wanted
  | .wrongValue found wanted =>
      "invalid value: " ++ found ++ ", expected " ++ wanted
  | .unknownPolicy name =>
      "unknown variant \x60" ++ name ++
        "\x60, expected \x60fail-fast\x60 or \x60collect-all\x60"
  | .repeatedField key => "duplicate field \x60" ++ key ++ "\x60"

/-- Why a text gives no settings. -/
inductive SettingsError where
  | malformed (fault : Yaml.Fault)
  | severalDocuments
  | mismatch (field : Option Text) (position : Yaml.Position) (cause : Mismatch)
  deriving DecidableEq

def SettingsError.message : SettingsError → Text
  | .malformed fault => fault.message
  | .severalDocuments =>
      "deserializing from YAML containing more than one document " ++
        "is not supported"
  | .mismatch field position cause =>
      (match field with
        | some name => name ++ ": "
        | none => []) ++ cause.message ++ position.note

namespace Settings

open Yaml

/-! ## Values -/

/-- The tag of a standard type. -/
def standardTag (name : String) : Option Text :=
  some ("tag:yaml.org,2002:" ++ name)

/-- What a scalar with a tag means, or what its tag asks for in vain. -/
def scalarOf (tag : Option Text) (text : Text) (style : ScalarStyle) :
    Except Mismatch Scalar :=
  let orWrong (wanted : String) (scalar? : Option Scalar) :
      Except Mismatch Scalar :=
    match scalar? with
    | some scalar => .ok scalar
    | none => .error (.wrongValue (Scalar.text text).description wanted)
  if tag = standardTag "bool" then
    orWrong "a boolean" ((Scalar.readBoolean? text).map .boolean)
  else if tag = standardTag "int" then
    orWrong "an integer" ((Scalar.readInteger? text).map .integer)
  else if tag = standardTag "float" then
    orWrong "a float" ((Scalar.readReal? text).map .real)
  else if tag = standardTag "null" then
    orWrong "null" (if Scalar.isNull text then some .null else none)
  else if style = .plain && tag.all (Text.startsWith · ['!']) then
    .ok (.ofPlain text)
  else .ok (.text text)

/-- The mismatch of a node that is not of the wanted type. -/
def wrongType (node : NodeHead) (wanted : Text) : Mismatch :=
  match node.content with
  | .sequence => .wrongType "sequence" wanted
  | .mapping => .wrongType "map" wanted
  | .scalar text style =>
      match scalarOf node.tag text style with
      | .ok scalar => .wrongType scalar.description wanted
      | .error mismatch => mismatch

/-- Where a mismatch is reported. -/
inductive Place where
  /-- At the node of the value. -/
  | node
  /-- At the start of all settings. -/
  | whole
  deriving DecidableEq

structure FieldMismatch where
  cause : Mismatch
  place : Place := .node

/-- The text of a scalar, however it is written. -/
def readText (wanted : Text) (node : NodeHead) : Except FieldMismatch Text :=
  match node.content with
  | .scalar text _ => .ok text
  | _ => .error { cause := wrongType node wanted }

/-- The text of a scalar that may be something other than text: a plain one,
or a literal block with the tag of the type. -/
def plainText? (type : String) (node : NodeHead) : Option Text :=
  match node.content with
  | .scalar text .plain => some text
  | .scalar text .literal =>
      if node.tag = standardTag type then some text else none
  | _ => none

def readBoolean (node : NodeHead) : Except FieldMismatch Bool :=
  match (plainText? "bool" node).bind Scalar.readBoolean? with
  | some value => .ok value
  | none => .error { cause := wrongType node "a boolean" }

/-- Read a number of workers of at most 64 bits. -/
def readCount (node : NodeHead) : Except FieldMismatch (Option Nat) :=
  let number? := (plainText? "int" node).bind Scalar.readNatural?
  match number?.filter (· < Nat.pow 2 64) with
  | some value => .ok (some value)
  | none => .error { cause := wrongType node "usize" }

/-- Read a number of workers, or nothing. -/
def readJobs (node : NodeHead) : Except FieldMismatch (Option Nat) :=
  match node.content with
  | .scalar text .plain =>
      if node.tag = standardTag "null" then
        if Scalar.isNull text then .ok none
        else
          .error {
            cause := .wrongValue (Scalar.text text).description "null"
            place := .whole }
      else if node.tag.isNone && (text.isEmpty || Scalar.isNull text) then
        .ok none
      else readCount node
  | _ => readCount node

def policyOfName? (name : Text) : Option FailurePolicy :=
  if name = "fail-fast".toList then some .failFast
  else if name = "collect-all".toList then some .collectAll
  else none

/-- The name in a tag that starts with an exclamation mark. The mark alone
names itself. -/
def localName? : Text → Option Text
  | ['!'] => some ['!']
  | '!' :: name => some name
  | _ => none

/-- A policy that is named by a tag has no content. -/
def requireEmpty (node : NodeHead) : Except FieldMismatch Unit :=
  match node.content with
  | .scalar text style =>
      if style = .plain && (text.isEmpty || Scalar.isNull text) then .ok ()
      else
        .error { cause := .wrongValue (Scalar.text text).description "null" }
  | _ => .error { cause := wrongType node "unit" }

/-- Read a policy, named by a tag or by the text of a scalar. -/
def readPolicy (node : NodeHead) :
    Except FieldMismatch FailurePolicy :=
  match node.tag.bind localName? with
  | some name =>
      match policyOfName? name with
      | some policy => (requireEmpty node).map fun _ => policy
      | none => .error { cause := .unknownPolicy name, place := .whole }
  | none =>
      match node.content with
      | .scalar name _ =>
          match policyOfName? name with
          | some policy => .ok policy
          | none => .error { cause := .unknownPolicy name }
      | _ =>
          .error { cause := wrongType node "a YAML tag starting with '!'" }

/-! ## Fields -/

inductive Field where
  | input
  | output
  | jobs
  | policy
  | stylesheet
  | marker
  deriving DecidableEq

def Field.key : Field → Text
  | .input => "input_dir"
  | .output => "output_dir"
  | .jobs => "jobs"
  | .policy => "failure_policy"
  | .stylesheet => "stylesheet"
  | .marker => "nojekyll"

def Field.ofKey? (key : Text) : Option Field :=
  [Field.input, .output, .jobs, .policy, .stylesheet, .marker].find?
    fun field => field.key = key

def readField (settings : Settings) (field : Field)
    (node : NodeHead) : Except FieldMismatch Settings :=
  match field with
  | .input => do
      return { settings with input := ⟨← readText "path string" node⟩ }
  | .output => do
      return { settings with output := ⟨← readText "path string" node⟩ }
  | .jobs => do return { settings with jobs := ← readJobs node }
  | .policy => do return { settings with policy := ← readPolicy node }
  | .stylesheet => do
      return { settings with stylesheet := ← readText "a string" node }
  | .marker => do
      return { settings with writesMarker := ← readBoolean node }

/-! ## Documents -/

/-- The events after a node, given the number of collections around the
current event. There are none if the events end early. -/
def afterNode? : Nat → List Event → Option (List Event)
  | _, [] => none
  | depth, event :: events =>
      match event, depth with
      | .node ⟨_, _, .scalar _ _⟩, 0 => some events
      | .alias _, 0 => some events
      | .node ⟨_, _, .scalar _ _⟩, depth + 1 => afterNode? (depth + 1) events
      | .alias _, depth + 1 => afterNode? (depth + 1) events
      | .node _, depth => afterNode? (depth + 1) events
      | .sequenceEnd, depth =>
          if depth ≤ 1 then some events else afterNode? (depth - 1) events
      | .mappingEnd, depth =>
          if depth ≤ 1 then some events else afterNode? (depth - 1) events

/-- The node that an event starts or mentions. -/
def nodeOf? : Event → Option NodeHead
  | .node head => some head
  | .alias target => some target
  | _ => none

/-- Settings in the making. -/
structure Progress where
  settings : Settings := {}
  /-- The fields read so far. -/
  seen : List Field := []

/-- Read the value of a field, which is named by `path` in messages. -/
def readValue (progress : Progress) (start : Position) (path : Text)
    (field : Field) (node : NodeHead) : Except SettingsError Progress :=
  match progress.settings.readField field node with
  | .ok settings => .ok ⟨settings, field :: progress.seen⟩
  | .error ⟨cause, .node⟩ => .error (.mismatch path node.position cause)
  | .error ⟨cause, .whole⟩ => .error (.mismatch none start cause)

/-- The field that a key names, if it names one, and the key in messages. -/
def readKey (event : Event) (node : NodeHead) :
    Except SettingsError (Option Field × Text) :=
  match node.content with
  | .scalar key _ =>
      let path :=
        match event with
        | .alias _ => ['?']
        | _ => key
      .ok (Field.ofKey? key, path)
  | _ =>
      .error (.mismatch none node.position (wrongType node "field identifier"))

/-- Read the pairs of a mapping that starts at a position. `ending` is what is
wrong if the events end early. -/
def readPairs (ending : SettingsError) (start : Position) :
    Nat → Progress → List Event → Except SettingsError Settings
  | 0, _, _ => .error ending
  | _ + 1, _, [] => .error ending
  | steps + 1, progress, event :: events =>
      match nodeOf? event with
      | none => .ok progress.settings
      | some key =>
          match readKey event key with
          | .error error => .error error
          | .ok (none, _) =>
              match afterNode? 0 events with
              | none => .error ending
              | some later => readPairs ending start steps progress later
          | .ok (some field, path) =>
              if progress.seen.contains field then
                .error (.mismatch none start (.repeatedField field.key))
              else
                match events with
                | [] => .error ending
                | value :: later =>
                    match nodeOf? value with
                    | none => .error ending
                    | some node =>
                        match readValue progress start path field node with
                        | .error error => .error error
                        | .ok progress =>
                            readPairs ending start steps progress later

def ofEvents (ending : SettingsError) : List Event → Except SettingsError Settings
  | [] => .ok {}
  | event :: events =>
      match nodeOf? event with
      | none => .error ending
      | some node =>
          match node.content with
          | .mapping =>
              readPairs ending node.position (events.length + 1) {} events
          | .scalar [] .plain => .ok {}
          | _ =>
              .error (.mismatch none node.position
                (wrongType node "struct GeneratorConfig"))

/-- Read settings from the only document of a text. -/
def ofYaml (text : Text) : Except SettingsError Settings := do
  let document := Document.ofText text
  match document.fault with
  | some fault =>
      if document.events.isEmpty then throw (.malformed fault)
      let _ ← ofEvents (.malformed fault) document.events
      throw (.malformed fault)
  | none =>
      let settings ← ofEvents .severalDocuments document.events
      if document.hasSuccessor then throw .severalDocuments
      return settings

end Settings

end Marginalia
