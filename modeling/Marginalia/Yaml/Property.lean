import Marginalia.Yaml.Token

/-!
# Names, tags and directives

Readers for anchors and aliases, for tags, and for the lines before a document
that start with a percent sign.
-/

namespace Marginalia.Yaml

/-! ## Anchors and aliases -/

/-- Read the name of an anchor or an alias after its mark. -/
def readName (activity : Text) (source : Source) :
    Except Fault (Text × Source) :=
  let name := source.advance.rest.takeWhile isNameCharacter
  let after := source.advance.skipWhile isNameCharacter
  let isEnded := after.endsWordAt 0 ||
    after.startsWith fun c => "?:,]\x7d%@\x60".toList.contains c
  if name.isEmpty || !isEnded then
    .error (after.fault "did not find expected alphabetic or numeric character"
      (some (activity, source.position)))
  else .ok (name, after)

/-! ## Tags -/

/-- Read the handle of a tag: an exclamation mark, then possibly a name and a
second mark. A name without a second mark is returned too. -/
def readHandle (source : Source) : Text × Source :=
  let name := source.advance.rest.takeWhile isNameCharacter
  let after := source.advance.skipWhile isNameCharacter
  if after.startsWith (· == '!') then
    ('!' :: name ++ ['!'], after.advance)
  else ('!' :: name, after)

/-- Whether a character may stand in a tag. Some stand only where the tag is
written out in full. -/
def isTagCharacter (isFull : Bool) (c : Char) : Bool :=
  isNameCharacter c || ";/?:@&=+$.!~*'()%".toList.contains c ||
    (isFull && ",[]".toList.contains c)

/-- The byte written as a percent sign and two digits. -/
def escapedByte? : Text → Option Nat
  | '%' :: high :: low :: _ => Text.readDigits? 16 [high, low]
  | _ => none

/-- The number of bytes of a character with a given first byte. -/
def utf8Width? (byte : Nat) : Option Nat :=
  if byte < 0x80 then some 1
  else if byte / 0x20 = 0x06 then some 2
  else if byte / 0x10 = 0x0e then some 3
  else if byte / 0x08 = 0x1e then some 4
  else none

/-- Read the later bytes of a character onto its value. -/
def readLaterBytes? : Nat → Nat → Text → Option Nat
  | 0, value, _ => some value
  | count + 1, value, text =>
      match escapedByte? text with
      | some byte =>
          if byte / 0x40 = 0x02 then
            readLaterBytes? count (value * 0x40 + byte % 0x40) (text.drop 3)
          else none
      | none => none

/-- The character written in percent notation at the start of a text, and the
number of its bytes. -/
def escapedTagCharacter? (text : Text) : Option (Char × Nat) := do
  let byte ← escapedByte? text
  let width ← utf8Width? byte
  let high := if width = 1 then byte else byte % Nat.pow 2 (7 - width)
  let value ← readLaterBytes? (width - 1) high (text.drop 3)
  return (Char.ofNat value, width)

/-- Read the characters of a tag onto those read so far, last first. -/
def readTagCharacters (isFull : Bool) (context : Text × Position) :
    Nat → Text → Source → Except Fault (Text × Source)
  | 0, read, source => .ok (read.reverse, source)
  | steps + 1, read, source =>
      match source.rest with
      | [] => .ok (read.reverse, source)
      | c :: _ =>
          if !isTagCharacter isFull c then .ok (read.reverse, source)
          else if c = '%' then
            match escapedTagCharacter? source.rest with
            | some (escaped, width) =>
                readTagCharacters isFull context steps (escaped :: read)
                  (source.advanceBy (3 * width))
            | none =>
                .error (source.fault "did not find URI escaped octet"
                  (some context))
          else
            readTagCharacters isFull context steps (c :: read) source.advance

/-- Read the text of a tag after what its handle gave. -/
def readTagText (isFull : Bool) (context : Text × Position)
    (needsMore : Bool) (given : Text) (source : Source) :
    Except Fault (Text × Source) := do
  let (text, after) ← readTagCharacters isFull context
    (source.rest.length + 1) given.reverse source
  if needsMore && text.isEmpty then
    throw (after.fault "did not find expected tag URI" (some context))
  return (text, after)

/-- Read a tag: written out between angle brackets, with a handle, or with the
exclamation mark alone. -/
def readTag (inFlow : Bool) (source : Source) :
    Except Fault (TagName × Source) := do
  let context := ("while scanning a tag".toList, source.position)
  let uriContext := ("while parsing a tag".toList, source.position)
  let (tag, after) ←
    if source.ahead? 1 = some '<' then do
      let (text, after) ←
        readTagText true uriContext true [] (source.advanceBy 2)
      if !after.startsWith (· == '>') then
        throw (after.fault "did not find the expected '>'" (some context))
      pure ((⟨[], text⟩ : TagName), after.advance)
    else
      let (handle, after) := readHandle source
      if 1 < handle.length && handle.getLast? = some '!' then do
        let (text, after) ← readTagText false uriContext true [] after
        pure (⟨handle, text⟩, after)
      else do
        let (text, after) ←
          readTagText false uriContext false (handle.drop 1) after
        pure (if text.isEmpty then ⟨[], ['!']⟩ else ⟨['!'], text⟩, after)
  if after.endsWordAt 0 || (inFlow && after.startsWith (· == ',')) then
    return (tag, after)
  else
    throw (after.fault "did not find expected whitespace or line break"
      (some context))

/-! ## Directives -/

def readVersionNumber (context : Text × Position) (source : Source) :
    Except Fault (Nat × Source) :=
  let digits := source.rest.takeWhile Char.isDigit
  match Text.readDigits? 10 digits with
  | none =>
      .error (source.fault "did not find expected version number"
        (some context))
  | some number =>
      if 9 < digits.length then
        .error ((source.advanceBy 9).fault
          "found extremely long version number" (some context))
      else .ok (number, source.skipWhile Char.isDigit)

def readVersion (start : Position) (source : Source) :
    Except Fault (TokenKind × Source) := do
  let context := ("while scanning a %YAML directive".toList, start)
  let (major, source) ← readVersionNumber context (source.skipWhile isBlank)
  if !source.startsWith (· == '.') then
    throw (source.fault "did not find expected digit or '.' character"
      (some context))
  let (minor, source) ← readVersionNumber context source.advance
  return (.versionDirective major minor, source)

/-- Read the handle and the text that it stands for after the name of their
directive. -/
def readTagDirective (start : Position) (source : Source) :
    Except Fault (TokenKind × Source) := do
  let context := ("while scanning a %TAG directive".toList, start)
  let source := source.skipWhile isBlank
  if !source.startsWith (· == '!') then
    throw (source.fault "did not find expected '!'" (some context))
  let (handle, source) := readHandle source
  if handle.getLast? ≠ some '!' then
    throw (source.fault "did not find expected '!'" (some context))
  if !source.startsWith isBlank then
    throw (source.fault "did not find expected whitespace" (some context))
  let (text, source) ←
    readTagText true context true [] (source.skipWhile isBlank)
  if !source.endsWordAt 0 then
    throw (source.fault "did not find expected whitespace or line break"
      (some context))
  return (.tagDirective ⟨handle, text⟩, source)

def readDirective (source : Source) : Except Fault (Token × Source) := do
  let start := source.position
  let context := ("while scanning a directive".toList, start)
  let name := source.advance.rest.takeWhile isNameCharacter
  let after := source.advance.skipWhile isNameCharacter
  if name.isEmpty then
    throw (after.fault "could not find expected directive name" (some context))
  if !after.endsWordAt 0 then
    throw (after.fault "found unexpected non-alphabetical character"
      (some context))
  let (kind, after) ←
    if name = "YAML".toList then readVersion start after
    else if name = "TAG".toList then readTagDirective start after
    else throw (after.fault "found unknown directive name" (some context))
  let stop := after.position
  let after := after.skipWhile isBlank
  let after := if after.startsWith (· == '#') then after.skipLine else after
  if !after.endsLine then
    throw (after.fault "did not find expected comment or line break"
      (some context))
  let after := if after.rest.isEmpty then after else after.advanceLine
  return (⟨kind, start, stop⟩, after)

end Marginalia.Yaml
