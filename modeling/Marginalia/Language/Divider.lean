import Marginalia.Html.Escape
import Marginalia.Language.Basic

/-!
# Dividers in highlighted code

In highlighted code a divider line appears bare or as one comment token, with
an optional line feed on either side. A bare divider that stands inside the
token of something else, such as a string, is text of that token and divides
nothing.
-/

namespace Marginalia

namespace Language

/-- A divider line as HTML text. -/
def renderedDivider (language : Language) : Text :=
  Html.escape language.symbol ++ dividerWord

end Language

namespace Divider

/-- The start of a token, up to its class. -/
def tokenStart : Text := "<span class=\""

def tokenEnd : Text := "</span>"

/-- The classes of comment tokens that may hold a divider. -/
def commentClasses : List Text := ["c", "c1", "cm", "cs"]

/-- A divider found at the start of some HTML. -/
structure Match where
  /-- Whether the divider is a token of its own. -/
  isToken : Bool
  /-- The HTML after the divider. -/
  rest : Text

/-- What may follow an optional line feed: the line feed is taken if it can
be. -/
def afterLineFeed : Text → List Text
  | '\n' :: rest => [rest, '\n' :: rest]
  | text => [text]

def dropLineFeed : Text → Text
  | '\n' :: rest => rest
  | text => text

/-- The HTML after a token that holds the divider. The line feed of the
divider line stands before or after the end of the token. -/
def afterToken? (divider html : Text) : Option Text := do
  let inner ← Text.after? tokenStart html
  let body ← commentClasses.findSome? fun name =>
    Text.after? (name ++ ['"', '>']) inner
  let tail ← Text.after? divider body
  match Text.after? ('\n' :: tokenEnd) tail with
  | some rest => some rest
  | none => (Text.after? tokenEnd tail).map dropLineFeed

def afterBare? (divider html : Text) : Option Text :=
  (Text.after? divider html).map dropLineFeed

def matchAt? (divider html : Text) : Option Match :=
  (afterLineFeed html).findSome? fun start =>
    match afterToken? divider start with
    | some rest => some ⟨true, rest⟩
    | none => (afterBare? divider start).map fun rest => ⟨false, rest⟩

/-- Whether the end of some HTML lies inside a token: more tokens are opened
than closed. -/
def insideToken (html : Text) : Bool :=
  decide (Text.occurrences tokenEnd html <
    Text.occurrences ['<', 's', 'p', 'a', 'n'] html)

/-- Look for a divider. `before` holds the HTML already passed, its last
character first, and the next `skip` characters belong to a divider that was
refused. -/
def findFrom (divider : Text) (before : Text) (skip : Nat) :
    Text → Option (Text × Text)
  | [] => none
  | c :: rest =>
      match skip with
      | skip + 1 => findFrom divider (c :: before) skip rest
      | 0 =>
          match matchAt? divider (c :: rest) with
          | none => findFrom divider (c :: before) 0 rest
          | some found =>
              if found.isToken || !insideToken before.reverse then
                some (before.reverse, found.rest)
              else
                -- The rest of a refused divider is passed without another look.
                findFrom divider (c :: before)
                  (rest.length - found.rest.length) rest

/-- The HTML before and after the first divider that divides. -/
def find? (divider html : Text) : Option (Text × Text) :=
  findFrom divider [] 0 html

/-- Cut HTML into a number of fragments at its dividers, and count the dividers
found. Where no divider is left, a fragment takes the rest of the HTML and the
fragments after it are empty. -/
def cut (divider : Text) : Nat → Text → List Text × Nat
  | 0, _ => ([], 0)
  | count + 1, html =>
      match find? divider html with
      | some (before, after) =>
          let (fragments, found) := cut divider count after
          (before :: fragments, found + 1)
      | none =>
          -- This fragment takes all that is left, so the next ones are cut from nothing.
          let (fragments, found) := cut divider count []
          (html :: fragments, found)

/-- The fragments of a number of sections and the number of dividers between
them. -/
def split (divider : Text) (count : Nat) (html : Text) : List Text × Nat :=
  let (fragments, found) := cut divider count html
  -- The last fragment ends at a divider as well if there is one, but that divider
  -- stands between no two sections.
  (fragments, min found (count - 1))

/-- The byte ranges of all dividers from an offset on, whether they divide or
not. -/
def rangesFrom (divider : Text) (offset skip : Nat) : Text → List (Nat × Nat)
  | [] => []
  | c :: rest =>
      let next := offset + c.utf8Size
      match skip with
      | skip + 1 => rangesFrom divider next skip rest
      | 0 =>
          match matchAt? divider (c :: rest) with
          | none => rangesFrom divider next 0 rest
          | some found =>
              let html := c :: rest
              let length := Text.byteLength html - Text.byteLength found.rest
              (offset, offset + length) ::
                rangesFrom divider next (rest.length - found.rest.length) rest

def ranges (divider html : Text) : List (Nat × Nat) :=
  rangesFrom divider 0 0 html

end Divider

end Marginalia
