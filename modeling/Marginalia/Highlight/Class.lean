import Marginalia.Text.Basic

/-!
# Classes of highlighted code

A capture names what a piece of code is, from the general to the special, with
dots between: `keyword.function` is a `keyword`. The class of a capture is the
short name that the stylesheet uses. A capture without a class of its own has
the class of its nearest ancestor.
-/

namespace Marginalia.Highlight

/-- Captures and their classes. The place of a row is the number of its
class. -/
def classes : List (Text × Text) :=
  [("attribute", "nd"),
   ("boolean", "kc"),
   ("comment", "c1"),
   ("constant", "no"),
   ("constant.builtin", "kc"),
   ("constructor", "nc"),
   ("escape", "se"),
   ("function", "nf"),
   ("function.builtin", "nb"),
   ("function.macro", "nf"),
   ("function.method", "nf"),
   ("keyword", "k"),
   ("keyword.function", "kd"),
   ("keyword.operator", "ow"),
   ("label", "nl"),
   ("module", "nn"),
   ("number", "m"),
   ("operator", "o"),
   ("property", "na"),
   ("punctuation", "p"),
   ("string", "s"),
   ("string.escape", "se"),
   ("string.special", "sr"),
   ("tag", "nt"),
   ("type", "kt"),
   ("type.builtin", "kt"),
   ("variable", "nv"),
   ("variable.builtin", "bp"),
   ("variable.parameter", "nv")]

/-- The captures that include a capture, the capture itself first and the most
general one last. -/
def ancestors (capture : Text) : List Text :=
  capture :: (cutsFrom [] capture).reverse
where
  /-- The texts before each dot, the shortest first; `before` holds what is
  already passed, its last character first. -/
  cutsFrom (before : Text) : Text → List Text
    | [] => []
    | c :: rest =>
        if c = '.' then before.reverse :: cutsFrom (c :: before) rest
        else cutsFrom (c :: before) rest

/-- The number of the class whose capture is exactly the given one. -/
def rowOf? (capture : Text) : Option Nat :=
  classes.findIdx? fun row => row.1 == capture

/-- The number of the class of a capture or of its nearest known ancestor. -/
def classNumber? (capture : Text) : Option Nat :=
  (ancestors capture).findSome? rowOf?

/-- The class of a number, empty when there is no such class. -/
def className (number : Nat) : Text :=
  match classes[number]? with
  | some row => row.2
  | none => []

/-- The class of a capture, if the capture or one of its ancestors is known. -/
def classOfCapture? (capture : Text) : Option Text :=
  (classNumber? capture).map className

end Marginalia.Highlight
