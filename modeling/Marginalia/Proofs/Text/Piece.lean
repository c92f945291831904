import Marginalia.Text.Basic
import Mathlib.Data.List.Infix

/-!
# Pieces of a text

What it means that a piece starts a text, stands somewhere in it or is counted
in it, in terms of the prefixes and infixes of lists.  A character that does
not occur in a piece is a wall for it: no place of the piece reaches across.
-/

namespace Marginalia.Text

/-! ## Leading pieces -/

@[simp]
theorem after?_append (piece rest : Text) :
    after? piece (piece ++ rest) = some rest := by
  induction piece with
  | nil =>
      rfl
  | cons first piece inductionHypothesis =>
      simpa [after?] using inductionHypothesis

theorem after?_eq_some_iff {piece text rest : Text} :
    after? piece text = some rest ↔ text = piece ++ rest := by
  constructor
  · intro found
    induction piece generalizing text with
    | nil =>
        simpa [after?] using found
    | cons first piece inductionHypothesis =>
        cases text with
        | nil =>
            simp [after?] at found
        | cons c text =>
            rw [after?] at found
            split at found
            · next same =>
                rw [same, inductionHypothesis found, List.cons_append]
            · cases found
  · rintro rfl
    exact after?_append piece rest

theorem after?_eq_none_iff {piece text : Text} :
    after? piece text = none ↔ ¬ piece <+: text := by
  rw [← Option.not_isSome_iff_eq_none, not_iff_not, Option.isSome_iff_exists]
  constructor
  · rintro ⟨rest, found⟩
    exact ⟨rest, (after?_eq_some_iff.mp found).symm⟩
  · rintro ⟨rest, rfl⟩
    exact ⟨rest, after?_append piece rest⟩

theorem startsWith_iff {piece text : Text} :
    startsWith text piece = true ↔ piece <+: text := by
  rw [← not_iff_not, ← after?_eq_none_iff, startsWith,
    Option.not_isSome_iff_eq_none]

/-! ## Characters that a piece does not have -/

/-- A leading piece ends before the first character that it does not have. -/
theorem prefix_of_prefix_append_cons {piece left right : Text} {wall : Char}
    (absent : wall ∉ piece) (leading : piece <+: left ++ wall :: right) :
    piece <+: left := by
  rcases List.prefix_or_prefix_of_prefix leading
      (List.prefix_append left (wall :: right)) with short | long
  · exact short
  · obtain ⟨middle, rfl⟩ := long
    rw [List.prefix_append_right_inj] at leading
    cases middle with
    | nil =>
        simp
    | cons c middle =>
        rw [List.cons_prefix_cons] at leading
        exact absurd (by simp [leading.1]) absent

/-- A place of a piece lies on one side of a character that it does not have. -/
theorem append_cons_eq_append_cases {left right before piece after : Text}
    {wall : Char} (absent : wall ∉ piece)
    (whole : left ++ wall :: right = before ++ (piece ++ after)) :
    (∃ more, left = before ++ (piece ++ more) ∧
      after = more ++ wall :: right) ∨
    ∃ more, before = left ++ wall :: more ∧
      right = more ++ (piece ++ after) := by
  rcases List.append_eq_append_iff.mp whole with
    ⟨more, beforeEq, wallEq⟩ | ⟨more, leftEq, pieceEq⟩
  · cases more with
    | nil =>
        cases piece with
        | nil =>
            exact Or.inl ⟨[], by simpa using beforeEq.symm, wallEq.symm⟩
        | cons first piece =>
            obtain ⟨rfl, _⟩ := List.cons.inj wallEq
            exact absurd List.mem_cons_self absent
    | cons first more =>
        obtain ⟨rfl, rightEq⟩ := List.cons.inj wallEq
        exact Or.inr ⟨more, beforeEq, rightEq⟩
  · have leading : piece <+: more ++ wall :: right := ⟨after, pieceEq⟩
    obtain ⟨rest, rfl⟩ := prefix_of_prefix_append_cons absent leading
    rw [List.append_assoc, List.append_cancel_left_eq] at pieceEq
    exact Or.inl ⟨rest, leftEq, pieceEq⟩

/-- A piece stands on one side of a character that it does not have. -/
theorem infix_append_cons_iff {piece left right : Text} {wall : Char}
    (absent : wall ∉ piece) :
    piece <:+: left ++ wall :: right ↔
      piece <:+: left ∨ piece <:+: right := by
  constructor
  · rintro ⟨before, after, whole⟩
    rw [List.append_assoc] at whole
    rcases append_cons_eq_append_cases absent whole.symm with
      ⟨more, leftEq, _⟩ | ⟨more, _, rightEq⟩
    · exact Or.inl ⟨before, more, by rw [leftEq, List.append_assoc]⟩
    · exact Or.inr ⟨more, after, by rw [rightEq, List.append_assoc]⟩
  · rintro (inLeft | inRight)
    · exact List.infix_append_of_infix_left inLeft
    · exact List.infix_append_of_infix_right (List.infix_cons inRight)

/-- Two ways to write a text up to the first place of a character agree. -/
theorem append_cons_inj {left left' right right' : Text} {wall : Char}
    (absent : wall ∉ left) (absent' : wall ∉ left')
    (same : left ++ wall :: right = left' ++ wall :: right') :
    left = left' ∧ right = right' := by
  have leading : left <+: left' :=
    prefix_of_prefix_append_cons absent ⟨wall :: right, same⟩
  have leading' : left' <+: left :=
    prefix_of_prefix_append_cons absent' ⟨wall :: right', same.symm⟩
  obtain rfl : left = left' :=
    leading.eq_of_length (Nat.le_antisymm leading.length_le leading'.length_le)
  simpa using same

/-- Two ways to write a text from the last place of a character on agree. -/
theorem append_cons_inj_of_last {left left' right right' : Text} {wall : Char}
    (absent : wall ∉ right) (absent' : wall ∉ right')
    (same : left ++ wall :: right = left' ++ wall :: right') :
    left = left' ∧ right = right' := by
  have reversed := congrArg List.reverse same
  simp only [List.reverse_append, List.reverse_cons, List.append_assoc,
    List.singleton_append] at reversed
  have parts :=
    append_cons_inj (by simpa using absent) (by simpa using absent') reversed
  exact ⟨List.reverse_injective parts.2, List.reverse_injective parts.1⟩

/-! ## Counting a piece -/

section Occurrences

variable {mark : Char} {piece : Text}

/-- A piece is not counted where its first character does not occur. -/
theorem occurrences_append_of_not_mem {left : Text} (absent : mark ∉ left)
    (right : Text) :
    occurrences (mark :: piece) (left ++ right) =
      occurrences (mark :: piece) right := by
  induction left with
  | nil =>
      rfl
  | cons c left inductionHypothesis =>
      rw [List.mem_cons, not_or] at absent
      have notHere :
          startsWith (c :: (left ++ right)) (mark :: piece) = false := by
        rw [← Bool.not_eq_true, startsWith_iff, List.cons_prefix_cons]
        exact fun leading => absent.1 leading.1
      rw [List.cons_append, occurrences, notHere,
        inductionHypothesis absent.2]
      simp

theorem occurrences_eq_zero {text : Text} (absent : mark ∉ text) :
    occurrences (mark :: piece) text = 0 := by
  rw [← List.append_nil text, occurrences_append_of_not_mem absent,
    occurrences]

/-- A character that a piece does not have adds no place of it. -/
theorem occurrences_append_singleton {wall : Char} (absent : wall ∉ mark :: piece)
    (text : Text) :
    occurrences (mark :: piece) (text ++ [wall]) =
      occurrences (mark :: piece) text := by
  induction text with
  | nil =>
      rw [List.mem_cons, not_or] at absent
      rw [List.nil_append, occurrences_eq_zero (by simpa using Ne.symm absent.1),
        occurrences]
  | cons c text inductionHypothesis =>
      have sameStart :
          startsWith (c :: (text ++ [wall])) (mark :: piece) =
            startsWith (c :: text) (mark :: piece) := by
        rw [Bool.eq_iff_iff, startsWith_iff, startsWith_iff]
        constructor
        · intro leading
          exact prefix_of_prefix_append_cons absent leading
        · intro leading
          exact leading.trans (List.prefix_append (c :: text) [wall])
      rw [List.cons_append, occurrences, sameStart, inductionHypothesis,
        occurrences]

/-- A piece is counted at most where it fits. -/
theorem occurrences_eq_zero_of_length_lt {text : Text}
    (short : text.length < (mark :: piece).length) :
    occurrences (mark :: piece) text = 0 := by
  induction text with
  | nil =>
      rfl
  | cons c text inductionHypothesis =>
      have notHere : startsWith (c :: text) (mark :: piece) = false := by
        rw [← Bool.not_eq_true, startsWith_iff]
        intro leading
        exact absurd leading.length_le (by omega)
      rw [occurrences, notHere, inductionHypothesis (by simp at short; simp; omega)]
      simp

end Occurrences

end Marginalia.Text
