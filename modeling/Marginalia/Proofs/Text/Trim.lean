import Marginalia.Text.WhiteSpace
import Marginalia.Proofs.Text.Run

/-!
# White space around a text

A text has only one part that is visible at both ends and has nothing but white
space around it, and trimming finds this part.
-/

namespace Marginalia

/-- A character of one table is not in another one if no two of their ranges meet. -/
theorem CodePointRanges.contains_eq_false_of_apart {ranges others : CodePointRanges}
    (apart : others.all (fun other =>
      ranges.all fun range => decide (other.2 < range.1 ∨ range.2 < other.1)) = true)
    {c : Char} (member : ranges.contains c = true) : others.contains c = false := by
  rw [← Bool.not_eq_true]
  intro alsoMember
  simp only [contains, containsCodePoint, List.any_eq_true, Bool.and_eq_true,
    decide_eq_true_eq] at member alsoMember
  obtain ⟨range, rangeMember, rangeStart, rangeStop⟩ := member
  obtain ⟨other, otherMember, otherStart, otherStop⟩ := alsoMember
  simp only [List.all_eq_true, decide_eq_true_eq] at apart
  have := apart other otherMember range rangeMember
  omega

namespace Text

/-- A text of white space only. -/
def IsBlank (text : Text) : Prop :=
  ∀ c ∈ text, isWhiteSpace c = true

/-- Whether a text does not start with white space. -/
def startsVisible (text : Text) : Bool :=
  text.head?.all (!isWhiteSpace ·)

/-- Whether a text does not end with white space. -/
def endsVisible (text : Text) : Bool :=
  text.getLast?.all (!isWhiteSpace ·)

/-- A value that is visible at both ends, with white space around it. -/
def Surrounds (text value : Text) : Prop :=
  ∃ before after : Text,
    before.IsBlank ∧ after.IsBlank ∧ text = before ++ value ++ after ∧
      value.startsVisible = true ∧ value.endsVisible = true

theorem isBlank_takeWhile (text : Text) :
    IsBlank (text.takeWhile isWhiteSpace) :=
  fun _ member => List.mem_takeWhile_imp member

theorem startsVisible_iff {text : Text} :
    text.startsVisible = true ↔ StopsRun isWhiteSpace text := by
  cases text with
  | nil =>
      simp [startsVisible]
  | cons c rest =>
      simp [startsVisible, stopsRun_cons_iff]

theorem endsVisible_iff {text : Text} :
    text.endsVisible = true ↔ StopsRun isWhiteSpace text.reverse := by
  rw [← startsVisible_iff, startsVisible, endsVisible, List.head?_reverse]

/-! ## Trimming -/

theorem trimStart_blank_append {before rest : Text} (blank : before.IsBlank)
    (stops : StopsRun isWhiteSpace rest) : trimStart (before ++ rest) = rest :=
  dropWhile_run_append blank stops

theorem trimEnd_append_blank {rest after : Text} (blank : after.IsBlank)
    (visible : rest.endsVisible = true) : trimEnd (rest ++ after) = rest := by
  have reversedBlank : ∀ c ∈ after.reverse, isWhiteSpace c = true :=
    fun c member => blank c (List.mem_reverse.mp member)
  rw [trimEnd, dropEndWhile, List.reverse_append,
    dropWhile_run_append reversedBlank (endsVisible_iff.mp visible),
    List.reverse_reverse]

theorem Surrounds.trim_eq {text value : Text} (around : text.Surrounds value) :
    trim text = value := by
  obtain ⟨before, after, beforeBlank, afterBlank, rfl, starts, ends⟩ := around
  by_cases empty : value = []
  · -- Nothing is visible: the start takes all of it.
    have allBlank : IsBlank (before ++ after) := by
      intro c member
      rcases List.mem_append.mp member with inBefore | inAfter
      · exact beforeBlank c inBefore
      · exact afterBlank c inAfter
    have nothingLeft := trimStart_blank_append allBlank stopsRun_nil
    rw [List.append_nil] at nothingLeft
    rw [empty, List.append_nil, trim, nothingLeft]
    rfl
  · rw [trim, List.append_assoc,
      trimStart_blank_append beforeBlank
        ((startsVisible_iff.mp starts).append empty after),
      trimEnd_append_blank afterBlank ends]

theorem exists_trimEnd_append (text : Text) :
    ∃ after : Text, after.IsBlank ∧ text = trimEnd text ++ after := by
  refine ⟨(text.reverse.takeWhile isWhiteSpace).reverse, ?_, ?_⟩
  · intro c member
    exact isBlank_takeWhile text.reverse c (List.mem_reverse.mp member)
  · rw [trimEnd, dropEndWhile, ← List.reverse_append,
      List.takeWhile_append_dropWhile, List.reverse_reverse]

theorem surrounds_trim (text : Text) : text.Surrounds (trim text) := by
  obtain ⟨after, afterBlank, startEq⟩ := exists_trimEnd_append (trimStart text)
  refine ⟨text.takeWhile isWhiteSpace, after, isBlank_takeWhile text, afterBlank,
    ?_, ?_, ?_⟩
  · rw [List.append_assoc, trim, ← startEq]
    exact List.takeWhile_append_dropWhile.symm
  · have visible : StopsRun isWhiteSpace (trimStart text) := stopsRun_dropWhile text
    rw [startEq] at visible
    exact startsVisible_iff.mpr visible.of_append
  · rw [endsVisible_iff, trim, trimEnd, dropEndWhile, List.reverse_reverse]
    exact stopsRun_dropWhile _

/-- Trimming gives the visible part of a text and nothing else. -/
theorem surrounds_iff {text value : Text} :
    text.Surrounds value ↔ trim text = value := by
  constructor
  · exact Surrounds.trim_eq
  · rintro rfl
    exact surrounds_trim text

end Text

end Marginalia
