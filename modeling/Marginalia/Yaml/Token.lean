import Marginalia.Yaml.Source

/-!
# Tokens of a document
-/

namespace Marginalia.Yaml

inductive ScalarStyle where
  | plain
  | singleQuoted
  | doubleQuoted
  | literal
  | folded
  deriving DecidableEq

/-- A tag as written: the handle that stands for a namespace, and the rest. -/
structure TagName where
  handle : Text
  suffix : Text
  deriving DecidableEq

inductive TokenKind where
  | streamEnd
  | versionDirective (major minor : Nat)
  | tagDirective (tag : TagName)
  | documentStart
  | documentEnd
  | blockSequenceStart
  | blockMappingStart
  | blockEnd
  | flowSequenceStart
  | flowSequenceEnd
  | flowMappingStart
  | flowMappingEnd
  | blockEntry
  | flowEntry
  | key
  | value
  | alias (name : Text)
  | anchor (name : Text)
  | tag (name : TagName)
  | scalar (text : Text) (style : ScalarStyle)
  deriving DecidableEq

structure Token where
  kind : TokenKind
  start : Position
  stop : Position
  deriving DecidableEq

end Marginalia.Yaml
