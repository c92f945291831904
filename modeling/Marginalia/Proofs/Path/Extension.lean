import Marginalia.Path
import Mathlib.Data.List.Infix
import Mathlib.Data.List.TakeWhile

/-!
# Extensions

A file name is cut at its last dot.  What follows the dot is the extension, unless
nothing stands in front of it.
-/

namespace Marginalia.Path

/-- The file name of a path ends in a dot and an extension, with something in front
of the dot. -/
def HasExtension (path : Path) (extension : Text) : Prop :=
  ∃ stem, path.fileName? = some (stem ++ '.' :: extension) ∧ stem ≠ [] ∧
    '.' ∉ extension

/-! ## File names -/

theorem mem_of_mem_stem {name : Text} {c : Char}
    (member : c ∈ (splitFileName name).1) : c ∈ name := by
  rw [splitFileName] at member
  split at member
  · exact member
  · next first stem stemEq =>
      rw [← stemEq] at member
      have inFront := List.mem_reverse.mp (List.mem_of_mem_dropLast member)
      exact List.mem_reverse.mp ((List.dropWhile_suffix _).subset inFront)

/-- The search for the last dot passes over a text without dots. -/
theorem passed_of_noDot {text : Text} (noDot : '.' ∉ text) :
    ∀ c ∈ text.reverse, decide (c ≠ '.') = true := by
  intro c member
  rw [decide_eq_true_iff]
  rintro rfl
  exact noDot (List.mem_reverse.mp member)

theorem extension_append {extension : Text} (noDot : '.' ∉ extension)
    (stem : Text) :
    (splitFileName (stem ++ '.' :: extension)).2 =
      if stem = [] then none else some extension := by
  have noDotReversed := passed_of_noDot noDot
  have reversed :
      (stem ++ '.' :: extension).reverse =
        extension.reverse ++ '.' :: stem.reverse := by
    simp
  have stemEq : ('.' :: stem.reverse).reverse.dropLast = stem := by
    rw [List.reverse_cons, List.reverse_reverse, List.dropLast_concat]
  rw [splitFileName, reversed, List.takeWhile_append_of_pos noDotReversed,
    List.dropWhile_append_of_pos noDotReversed,
    List.dropWhile_cons_of_neg (by simp), stemEq]
  cases stem <;> simp

theorem exists_lastDot {name : Text} (dotted : '.' ∈ name) :
    ∃ stem extension, name = stem ++ '.' :: extension ∧ '.' ∉ extension := by
  obtain ⟨reversed, front, reversedEq, noDot⟩ :=
    List.eq_append_cons_of_mem (List.mem_reverse.mpr dotted)
  refine ⟨front.reverse, reversed.reverse, ?_, by simpa using noDot⟩
  have nameEq := congrArg List.reverse reversedEq
  simpa using nameEq

theorem extension_of_noDot {name : Text} (noDot : '.' ∉ name) :
    (splitFileName name).2 = none := by
  rw [splitFileName, List.dropWhile_eq_nil_iff.mpr (passed_of_noDot noDot)]
  rfl

theorem extension_eq_some_iff {name extension : Text} :
    (splitFileName name).2 = some extension ↔
      ∃ stem, name = stem ++ '.' :: extension ∧ stem ≠ [] ∧ '.' ∉ extension := by
  constructor
  · intro found
    by_cases dotted : '.' ∈ name
    · obtain ⟨stem, last, rfl, noDot⟩ := exists_lastDot dotted
      rw [extension_append noDot] at found
      split at found
      · cases found
      · next nonempty =>
          cases found
          exact ⟨stem, rfl, nonempty, noDot⟩
    · rw [extension_of_noDot dotted] at found
      cases found
  · rintro ⟨stem, rfl, nonempty, noDot⟩
    rw [extension_append noDot, if_neg nonempty]

/-! ## Paths -/

theorem extension?_eq_some_iff {path : Path} {extension : Text} :
    path.extension? = some extension ↔ path.HasExtension extension := by
  rw [extension?, Option.bind_eq_some_iff]
  simp only [extension_eq_some_iff]
  constructor
  · rintro ⟨name, named, stem, rfl, nonempty, noDot⟩
    exact ⟨stem, named, nonempty, noDot⟩
  · rintro ⟨stem, named, nonempty, noDot⟩
    exact ⟨_, named, stem, rfl, nonempty, noDot⟩

end Marginalia.Path
