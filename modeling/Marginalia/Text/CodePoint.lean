import Marginalia.Text.Basic

/-!
# Tables of code points

A class of characters is a list of code point ranges. A case mapping is a list
of runs: every `step`-th code point from `first` to `last` maps to the code
point `offset` away.
-/

namespace Marginalia

/-- Closed ranges of code points, each given by its first and last member. -/
abbrev CodePointRanges := List (Nat × Nat)

namespace CodePointRanges

def containsCodePoint (ranges : CodePointRanges) (codePoint : Nat) : Bool :=
  ranges.any fun (first, last) => first ≤ codePoint && codePoint ≤ last

def contains (ranges : CodePointRanges) (c : Char) : Bool :=
  ranges.containsCodePoint c.toNat

end CodePointRanges

/-- Every `step`-th code point from `first` to `last` moves by `offset`. -/
structure CaseRun where
  first : Nat
  last : Nat
  step : Nat
  offset : Int

namespace CaseRun

def covers (run : CaseRun) (codePoint : Nat) : Bool :=
  run.first ≤ codePoint && codePoint ≤ run.last &&
    (codePoint - run.first) % run.step == 0

/-- Map a code point by the first run that covers it. -/
def apply (runs : List CaseRun) (codePoint : Nat) : Nat :=
  match runs.find? (·.covers codePoint) with
  | some run => (codePoint + run.offset).toNat
  | none => codePoint

end CaseRun

end Marginalia
