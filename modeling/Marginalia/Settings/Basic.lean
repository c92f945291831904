import Marginalia.Failure

/-!
# Settings of a run
-/

namespace Marginalia

structure Settings where
  /-- The directory with one directory per artifact. -/
  input : Path := ⟨"artifacts"⟩
  /-- The directory that the site is written to. -/
  output : Path := ⟨"docs"⟩
  /-- The number of workers, if it is given. -/
  jobs : Option Nat := none
  policy : FailurePolicy := .failFast
  /-- The name of the stylesheet in the output directory. -/
  stylesheet : Text := "lazylit.css".toList
  /-- Whether the file is written that keeps a host from processing the
  site. -/
  writesMarker : Bool := true
  deriving DecidableEq

/-- The number of workers of a run on a machine with some processors; never
zero. -/
def Settings.workers (settings : Settings) (processors : Nat) : Nat :=
  match settings.jobs with
  | some (count + 1) => count + 1
  | _ => max processors 1

end Marginalia
