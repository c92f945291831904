import Marginalia.Markdown.Character
import Marginalia.Markdown.NamedCharacter

/-!
# Escapes and character references

A backslash before ASCII punctuation makes it literal, and a character
reference such as `&amp;` or `&#65;` stands for characters.
-/

namespace Marginalia
namespace Markdown

/-! ## Character references -/

/-- The character of a code point. Zero and the numbers that are no character
give the replacement character. -/
def characterOf (codePoint : Nat) : Char :=
  if codePoint ≠ 0 && codePoint.isValidChar then Char.ofNat codePoint
  else '�'

/-- The characters of code points in hexadecimal notation with `+` between. -/
def charactersOf (codePoints : Text) : Text :=
  (Text.splitAtEach '+' codePoints).filterMap fun digits =>
    (Text.readDigits? 16 digits).map characterOf

def namedCharacters? (name : Text) : Option Text :=
  namedCharacterLines.findSome? fun line =>
    (Text.splitAtEach ' ' line.toList).findSome? fun entry =>
      (Text.after? (name ++ [':']) entry).map charactersOf

/-- A number reference after its mark: at most `limit` digits of a base and a
semicolon. The answer holds the character and the length read. -/
def numberReference? (base limit : Nat) (text : Text) : Option (Text × Nat) :=
  let digits := text.takeWhile fun c => (Text.digitValue? base c).isSome
  if digits.length ≤ limit && (text.drop digits.length).head? = some ';' then
    (Text.readDigits? base digits).map fun codePoint =>
      ([characterOf codePoint], digits.length + 1)
  else none

def nameReference? (text : Text) : Option (Text × Nat) :=
  let name := text.takeWhile Char.isAlphanum
  if (text.drop name.length).head? = some ';' then
    (namedCharacters? name).map fun characters => (characters, name.length + 1)
  else none

/-- A character reference after its ampersand: the characters it stands for
and the length read. -/
def reference? : Text → Option (Text × Nat)
  | '#' :: c :: rest =>
      if c = 'x' || c = 'X' then
        (numberReference? 16 6 rest).map fun (characters, length) =>
          (characters, length + 2)
      else
        (numberReference? 10 7 (c :: rest)).map fun (characters, length) =>
          (characters, length + 1)
  | text => nameReference? text

/-! ## Literal text -/

/-- The text that stands after a number of characters to skip, with escapes
and references resolved. -/
def unescapeFrom : Nat → Text → Text
  | _, [] => []
  | skip + 1, _ :: rest => unescapeFrom skip rest
  | 0, '\\' :: c :: rest =>
      if isAsciiPunctuation c then c :: unescapeFrom 1 (c :: rest)
      else '\\' :: unescapeFrom 0 (c :: rest)
  | 0, '&' :: rest =>
      match reference? rest with
      | some (characters, length) => characters ++ unescapeFrom length rest
      | none => '&' :: unescapeFrom 0 rest
  | 0, c :: rest =>
      if c = '\r' then unescapeFrom 0 rest else c :: unescapeFrom 0 rest

def unescape (text : Text) : Text := unescapeFrom 0 text

end Markdown
end Marginalia
